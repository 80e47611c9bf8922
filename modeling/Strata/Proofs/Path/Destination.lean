import Strata.Proofs.FileName
import Strata.Proofs.Path.Route
import Strata.Proofs.Text.Lines

/-!
# Where paths lead

A path that is counted from a directory leads to something below that directory, or it climbs.  As
long as it climbs no further than to the directory above and does not end there, what it leads to
is known by the names on the way: below the directory, or beside it.  Normalisation finds these
names, whether the directory is written `.` or by a name of its own.
-/

namespace Strata.Path

open Strata.Text

/-! ### Names in paths -/

/-- All names in a path have a property. -/
def Named (p : FileName → Prop) (path : Path) : Prop := ∀ name, .name name ∈ path → p name

/-- A part between slashes that is a name is a text that may stand there. -/
lemma exists_of_partOf?_eq_name {part : String} {name : FileName} (hfree : '/' ∉ part.toList)
    (h : partOf? part = some (.name name)) : ∃ text : String, name = text ∧ name.Proper := by
  unfold partOf? at h
  split_ifs at h with hblank hup
  · cases h
  · obtain rfl : (part : FileName) = name := Part.name.inj (Option.some.inj h)
    rw [not_or] at hblank
    exact ⟨part, rfl, FileName.proper_text_iff.2 ⟨hfree, hblank.1, hblank.2, hup⟩⟩

lemma partOf?_of_proper {text : String} (h : FileName.Proper text) :
    partOf? text = some (.name text) := by
  obtain ⟨-, hempty, hdot, hup⟩ := FileName.proper_text_iff.1 h
  rw [partOf?, if_neg (not_or.2 ⟨hempty, hdot⟩), if_neg hup]

lemma exists_of_mem_parse {text : String} {name : FileName} (h : .name name ∈ parse text) :
    ∃ s : String, name = s ∧ name.Proper := by
  rcases List.mem_append.1 h with h | h
  · split_ifs at h <;> simp at h
  · obtain ⟨part, hpart, hsome⟩ := List.mem_filterMap.1 h
    exact exists_of_partOf?_eq_name (not_mem_of_mem_partsAt hpart) hsome

/-- An absolute path starts with an empty part. -/
lemma mem_partsAt_of_isAbsolute {text : String} (h : isAbsolute text = true) :
    "" ∈ partsAt '/' text := by
  obtain ⟨rest, hrest⟩ := startsWith_iff.1 h
  rw [partsAt, partsBy, ← hrest]
  exact List.mem_cons_self

/-! ### Written paths -/

/-- A `..`, or a text that may stand between slashes. -/
def IsStep (part : Part) : Prop :=
  part = .up ∨ ∃ text : String, part = .name text ∧ FileName.Proper text

namespace IsStep

variable {part : Part}

lemma partOf?_text (h : IsStep part) : partOf? part.text = some part := by
  rcases h with rfl | ⟨text, rfl, htext⟩
  · rfl
  · exact partOf?_of_proper htext

/-- How names and `..` are written. -/
lemma text_ne {steps : Path} (h : ∀ part ∈ steps, IsStep part) {text : String}
    (htext : text ∈ steps.map Part.text) : text ≠ "" ∧ text ≠ "." ∧ '/' ∉ text.toList := by
  obtain ⟨part, hpart, rfl⟩ := List.mem_map.1 htext
  rcases h part hpart with rfl | ⟨text, rfl, hproper⟩
  · decide
  · obtain ⟨hslash, hempty, hdot, -⟩ := FileName.proper_text_iff.1 hproper
    exact ⟨hempty, hdot, hslash⟩

end IsStep

/-- Names and `..` written with slashes between them are read as what they are. -/
lemma parts_joinWith_text {steps : Path} (hne : steps ≠ []) (hsteps : ∀ part ∈ steps, IsStep part) :
    partsAt '/' (joinWith "/" (steps.map Part.text)) = steps.map Part.text ∧
      parse (joinWith "/" (steps.map Part.text)) = steps := by
  have hparts : partsAt '/' (joinWith "/" (steps.map Part.text)) = steps.map Part.text := by
    exact partsAt_joinWith (by simpa using hne) fun text htext => (IsStep.text_ne hsteps htext).2.2
  refine ⟨hparts, ?_⟩
  have habsolute : ¬ isAbsolute (joinWith "/" (steps.map Part.text)) = true :=
    fun h => (IsStep.text_ne hsteps (hparts ▸ mem_partsAt_of_isAbsolute h)).1 rfl
  have hdot : ¬ (partsAt '/' (joinWith "/" (steps.map Part.text))).head? = some "." :=
    fun h => (IsStep.text_ne hsteps (hparts ▸ List.mem_of_mem_head? h)).2.1 rfl
  rw [parse, if_neg habsolute, if_neg hdot, List.nil_append, hparts, List.filterMap_map]
  have hread : ∀ part ∈ steps, (partOf? ∘ Part.text) part = some part :=
    fun part hpart => (hsteps part hpart).partOf?_text
  rw [List.filterMap_congr hread, List.filterMap_some]

/-! ### Joining -/

lemma nil_join (path : Path) : join [] path = path := by
  simp [join]

lemma join_map_name (base : Path) (names : List FileName) :
    join base (names.map .name) = base ++ names.map .name := by
  rw [Path.join, if_neg]
  cases names <;> simp

lemma join_assoc (a b c : Path) : join (join a b) c = join a (join b c) := by
  by_cases hc : c.head? = some .root
  · simp [join, hc]
  · by_cases hb : b.head? = some .root
    · simp [join, hc, hb]
    · have hbc : ¬ (b ++ c).head? = some .root := by
        cases b with
        | nil => exact hc
        | cons part b => exact hb
      rw [join, if_neg hc, join, if_neg hb, join, join, if_neg hc, if_neg hbc, List.append_assoc]

lemma Named.join {p : FileName → Prop} {a b : Path} (ha : Named p a) (hb : Named p b) :
    Named p (join a b) := by
  unfold Path.join
  split
  · exact hb
  · intro name hname
    rcases List.mem_append.1 hname with hname | hname
    · exact ha name hname
    · exact hb name hname

/-! ### Destinations -/

/-- What a path leads to, seen from the directory that it is counted from; the names on the way are
given last one first. -/
inductive Destination where
  /-- Something below the directory. -/
  | below (names : List FileName)
  /-- Something below the directory above, beside the directory. -/
  | beside (names : List FileName)
deriving DecidableEq, Repr

namespace Destination

/-- Where one more part of a path leads; nowhere above the directory above. -/
def step : Destination → Part → Option Destination
  | place, .here => some place
  | below names, .name name => some (below (name :: names))
  | beside names, .name name => some (beside (name :: names))
  | below (_ :: names), .up => some (below names)
  | below [], .up => some (beside [])
  | beside (_ :: names), .up => some (beside names)
  | beside [], .up => none
  | _, .root => none

/-- What normalisation keeps on the way: `inside` is what it keeps at the directory, and `outside`
what it keeps at the one above. -/
def kept (inside outside : Path) : Destination → Path
  | below names => names.map .name ++ inside
  | beside names => names.map .name ++ outside

variable {inside outside : Path}

lemma normalStep_kept (hup : normalStep inside .up = outside) {place next : Destination}
    {part : Part} (h : place.step part = some next) :
    normalStep (place.kept inside outside) part = next.kept inside outside := by
  cases part with
  | root => cases place <;> cases h
  | here =>
    obtain rfl : place = next := by cases place <;> exact Option.some.inj h
    rfl
  | name name => cases place <;> cases h <;> rfl
  | up =>
    cases place with
    | below names =>
      cases names with
      | nil =>
        cases h
        exact hup
      | cons name names =>
        cases h
        rfl
    | beside names =>
      cases names with
      | nil => cases h
      | cons name names =>
        cases h
        rfl

lemma foldl_normalStep_kept (hup : normalStep inside .up = outside) {path : Path}
    {place last : Destination} (h : path.foldlM step place = some last) :
    path.foldl normalStep (place.kept inside outside) = last.kept inside outside := by
  induction path generalizing place with
  | nil =>
    cases h
    rfl
  | cons part path ih =>
    obtain ⟨next, hnext, hlast⟩ := Option.bind_eq_some_iff.1 h
    rw [List.foldl_cons, normalStep_kept hup hnext, ih hlast]

end Destination

/-- Where a path leads, if it climbs no further than to the directory above. -/
def destination? (path : Path) : Option Destination :=
  path.foldlM Destination.step (.below [])

section Normal

variable {path : Path} {place : Destination}

lemma head?_ne_root (h : path.destination? = some place) : path.head? ≠ some .root := by
  intro hroot
  obtain ⟨rest, rfl⟩ : ∃ rest, path = .root :: rest := by
    cases path with
    | nil => cases hroot
    | cons part rest => exact ⟨rest, by rw [Option.some.inj hroot]⟩
  cases h

/-- The normal form of a path below the directory `.`. -/
lemma normalize_dot (h : path.destination? = some place) :
    normalize (join [.here] path) = (place.kept [] [.up]).reverse := by
  rw [join, if_neg (head?_ne_root h)]
  have hfold := Destination.foldl_normalStep_kept (rfl : normalStep [] .up = [.up]) h
  exact congrArg List.reverse hfold

/-- The normal form of a path below the directory `proj`. -/
lemma normalize_proj (h : path.destination? = some place) :
    normalize (join [.name "proj"] path) = (place.kept [.name "proj"] []).reverse := by
  rw [join, if_neg (head?_ne_root h)]
  have hfold := Destination.foldl_normalStep_kept (rfl : normalStep [.name "proj"] .up = []) h
  exact congrArg List.reverse hfold

/-- Names alone are normal. -/
lemma normalize_map_name (names : List FileName) :
    normalize (names.map .name) = names.map .name := by
  have hfold : ∀ kept : Path,
      (names.map Part.name).foldl normalStep kept = (names.map Part.name).reverse ++ kept := by
    induction names with
    | nil => exact fun kept => rfl
    | cons name names ih =>
      intro kept
      rw [List.map_cons, List.foldl_cons, ih, List.reverse_cons, List.append_assoc]
      rfl
  rw [normalize, hfold, List.append_nil, List.reverse_reverse]

lemma map_text_map_name (names : List FileName) :
    (names.map Part.name).map Part.text = names.map FileName.shown := by
  rw [List.map_map]
  rfl

/-- An absolute path stays absolute when it is normalised. -/
lemma exists_normalize_eq_root (h : path.head? = some .root) :
    ∃ rest, normalize path = .root :: rest := by
  have hstep : ∀ (kept : Path) (part : Part), kept.getLast? = some .root →
      (normalStep kept part).getLast? = some .root := by
    intro kept part hkept
    obtain ⟨start, rfl⟩ := List.getLast?_eq_some_iff.1 hkept
    cases part with
    | root => simp [normalStep, List.getLast?_cons]
    | here => simp [normalStep]
    | name name => simp [normalStep, List.getLast?_cons]
    | up =>
      cases start with
      | nil => rfl
      | cons first start => simp [normalStep]
  have hfold : ∀ (rest kept : Path), kept.getLast? = some .root →
      (rest.foldl normalStep kept).getLast? = some .root := by
    intro rest
    induction rest with
    | nil => exact fun kept hkept => hkept
    | cons part rest ih => exact fun kept hkept => ih _ (hstep kept part hkept)
  cases path with
  | nil => cases h
  | cons part rest =>
    obtain rfl : part = .root := Option.some.inj h
    obtain ⟨start, hstart⟩ := List.getLast?_eq_some_iff.1 (hfold rest [.root] rfl)
    refine ⟨start.reverse, ?_⟩
    have hkept : (Part.root :: rest).foldl normalStep [] = start ++ [.root] := hstart
    rw [normalize, hkept, List.reverse_append]
    rfl

end Normal

/-- Whether something is known to lie elsewhere than in the directory `proj`, or in it and not at
its top. -/
def Destination.settled : Destination → Bool
  | below names => !names.isEmpty
  | beside names => !names.isEmpty && names.getLast? != some "proj"

/-- A path that means the same whether the directory that it is counted from is written `.` or
`proj`: it is absolute, or leads to something below the directory, or to something beside it that
is not named `proj`. -/
def Settled (path : Path) : Prop :=
  path.head? = some .root ∨ path.destination?.any Destination.settled = true

instance (path : Path) : Decidable (Settled path) :=
  inferInstanceAs (Decidable (_ ∨ _))

end Strata.Path

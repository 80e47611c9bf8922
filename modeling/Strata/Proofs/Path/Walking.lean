import Strata.Proofs.Path.NormalForm

/-!
# Walking along paths

A directory is given by the names on the way to it from the topmost one.  Walking along a path, a
name goes down, `..` goes up, and `.` stays.  From a directory that is deep enough, a relative path
leads as many levels up as it climbs and then down along its names.

Normalisation forgets pairs of levels, so a path and its normal form lead to the same place exactly
if the path climbs one level at most (`walk_normalize_iff`).  Where a path lies below a directory is
read off the two normal forms.  This is right if the path and the directory climb equally far; if
they are relative and do not, no names lead from the one to the other (`relative?_below`).
-/

namespace Strata.Path

open Strata.Text

/-! ### Where a path leads -/

/-- Where one component leads from a directory.  The topmost directory has nothing above it. -/
def walkStep (dir : List FileName) : Part → List FileName
  | .root => []
  | .here => dir
  | .up => dir.dropLast
  | .name name => dir ++ [name]

/-- Where a path leads from a directory. -/
def walk (dir : List FileName) (path : Path) : List FileName := path.foldl walkStep dir

lemma walk_append (dir : List FileName) (a b : Path) : walk dir (a ++ b) = walk (walk dir a) b :=
  List.foldl_append

/-- Where a route leads from a directory. -/
def Route.place (dir : List FileName) (route : Route) : List FileName :=
  dir.take (dir.length - route.ups) ++ route.names.reverse

lemma Route.walkStep_place (dir : List FileName) (route : Route) {part : Part}
    (hpart : part ≠ .root) : walkStep (route.place dir) part = (route.step part).place dir := by
  obtain ⟨ups, names⟩ := route
  cases part with
  | root => exact absurd rfl hpart
  | here => rfl
  | name name => simp [walkStep, step, place]
  | up =>
    cases names with
    | nil =>
      have hup : (dir.take (dir.length - ups)).dropLast = dir.take (dir.length - (ups + 1)) := by
        rw [List.dropLast_eq_take, List.take_take, List.length_take]
        congr 1
        omega
      simp only [walkStep, step, place, List.reverse_nil, List.append_nil, hup]
    | cons name names =>
      simp only [walkStep, step, place, List.reverse_cons, ← List.append_assoc,
        List.dropLast_concat]

lemma Route.foldl_walkStep_place (dir : List FileName) {path : Path} (hpath : .root ∉ path)
    (route : Route) :
    path.foldl walkStep (route.place dir) = (path.foldl step route).place dir := by
  induction path generalizing route with
  | nil => rfl
  | cons part path ih =>
    obtain ⟨hpart, hrest⟩ := not_or.1 (mt List.mem_cons.2 hpath)
    rw [List.foldl_cons, List.foldl_cons, walkStep_place dir route (Ne.symm hpart), ih hrest]

/-- A relative path leads up as far as it climbs, and then down along its names. -/
lemma walk_eq (dir : List FileName) {path : Path} (hpath : .root ∉ path) :
    walk dir path = dir.take (dir.length - climb path) ++ descent path := by
  have hstart : dir = Route.place dir {} := by simp [Route.place]
  have hfold := Route.foldl_walkStep_place dir hpath {}
  rwa [← hstart] at hfold

lemma walk_map_name (dir names : List FileName) : walk dir (names.map .name) = dir ++ names := by
  induction names generalizing dir with
  | nil => simp [walk]
  | cons name names ih =>
    have hstep : walk dir (.name name :: names.map .name) =
        walk (dir ++ [name]) (names.map .name) := rfl
    rw [List.map_cons, hstep, ih, List.append_assoc, List.singleton_append]

lemma walk_replicate_up (dir : List FileName) (n : ℕ) :
    walk dir (List.replicate n .up) = dir.take (dir.length - n) := by
  induction n generalizing dir with
  | zero => simp [walk]
  | succ n ih =>
    have hstep : walk dir (.up :: List.replicate n .up) =
        walk dir.dropLast (List.replicate n .up) := rfl
    rw [List.replicate_succ, hstep, ih, List.length_dropLast, List.dropLast_eq_take,
      List.take_take]
    congr 1
    omega

/-- Where a normal form leads. -/
lemma walk_reduced (dir : List FileName) (path : Path) :
    walk dir (reduced path) = dir.take (dir.length - climb path % 2) ++ descent path := by
  rw [reduced, walk_append, walk_replicate_up, walk_map_name]

/-! ### Written paths -/

/-- The slash at the start of an absolute path. -/
def slash (text : String) : Path := if isAbsolute text then [.root] else []

/-- A written path is its slash, if it is absolute, and other components. -/
lemma exists_parse_eq_slash (text : String) :
    ∃ body : Path, .root ∉ body ∧ parse text = slash text ++ body := by
  have hparts : Part.root ∉ (partsAt '/' text).filterMap partOf? := by
    intro hmem
    obtain ⟨part, -, hpart⟩ := List.mem_filterMap.1 hmem
    unfold partOf? at hpart
    split_ifs at hpart <;> cases hpart
  unfold parse slash
  dsimp only
  split_ifs
  · exact ⟨_, hparts, rfl⟩
  · exact ⟨_, by simpa using hparts, rfl⟩
  · exact ⟨_, hparts, rfl⟩

lemma root_not_mem_parse {text : String} (h : isAbsolute text = false) : .root ∉ parse text := by
  obtain ⟨body, hbody, hparse⟩ := exists_parse_eq_slash text
  rw [hparse, slash, h]
  exact hbody

lemma normalize_parse (text : String) :
    normalize (parse text) = slash text ++ reduced (parse text) := by
  obtain ⟨body, hbody, hparse⟩ := exists_parse_eq_slash text
  rw [hparse, slash]
  split_ifs
  · exact normalize_root_cons hbody
  · exact normalize_eq_reduced hbody

/-- Where a written path leads, from the topmost directory if it is absolute. -/
lemma walk_parse (dir : List FileName) (text : String) :
    walk dir (parse text) =
      (if isAbsolute text then [] else dir.take (dir.length - climb (parse text))) ++
        descent (parse text) := by
  obtain ⟨body, hbody, hparse⟩ := exists_parse_eq_slash text
  rw [hparse, slash]
  split_ifs
  · exact (walk_eq [] hbody).trans (by rw [List.take_nil]; rfl)
  · exact walk_eq dir hbody

/-! ### Normal forms lead to the same place -/

/-- From a directory that is deep enough, a relative path and its normal form lead to the same place
exactly if the path climbs one level at most. -/
theorem walk_normalize_iff {path : String} (hpath : isAbsolute path = false) {dir : List FileName}
    (hdir : (parse path).count .up ≤ dir.length) :
    walk dir (normalize (parse path)) = walk dir (parse path) ↔ climb (parse path) ≤ 1 := by
  have hroot := root_not_mem_parse hpath
  have hclimb : climb (parse path) ≤ dir.length := (climb_le_count _).trans hdir
  rw [normalize_eq_reduced hroot, walk_reduced, walk_eq dir hroot, List.append_left_inj]
  constructor
  · intro hplaces
    have hlengths := congrArg List.length hplaces
    simp only [List.length_take] at hlengths
    omega
  · intro hle
    rw [Nat.mod_eq_of_lt (by omega)]

/-- A path that goes up and down and up again. -/
theorem walk_normalize_iff_upAndDown :
    isAbsolute "a/../../b/./c/.." = false ∧
      (parse "a/../../b/./c/..").count .up ≤ (["x", "y", "z"] : List FileName).length ∧
      climb (parse "a/../../b/./c/..") ≤ 1 ∧
      normalize (parse "a/../../b/./c/..") = parse "../b" ∧
      walk ["x", "y", "z"] (normalize (parse "a/../../b/./c/..")) =
        walk ["x", "y", "z"] (parse "a/../../b/./c/..") := by
  have hpath : isAbsolute "a/../../b/./c/.." = false := by decide +kernel
  have hdir : (parse "a/../../b/./c/..").count .up ≤ (["x", "y", "z"] : List FileName).length := by
    decide +kernel
  have hclimb : climb (parse "a/../../b/./c/..") ≤ 1 := by decide +kernel
  exact ⟨hpath, hdir, hclimb, by decide +kernel, (walk_normalize_iff hpath hdir).2 hclimb⟩

/-- A path that climbs two levels is normalised to one that does not climb. -/
theorem walk_normalize_twoLevels :
    isAbsolute "../../a" = false ∧
      (parse "../../a").count .up ≤ (["x", "y"] : List FileName).length ∧
      normalize (parse "../../a") = parse "a" ∧
      walk ["x", "y"] (parse "../../a") = ["a"] ∧
      walk ["x", "y"] (normalize (parse "../../a")) = ["x", "y", "a"] := by
  decide +kernel

/-! ### Paths below a directory -/

/-- From every directory that is deep enough, the names lead from where `root` leads to where `path`
leads. -/
def Leads (root path : Path) (names : List FileName) : Prop :=
  ∀ dir : List FileName, root.count .up ≤ dir.length → path.count .up ≤ dir.length →
    walk dir path = walk dir root ++ names

/-- The path lies below the root, as far as the two paths tell: the same names lead from the root to
the path wherever both are counted from. -/
def Below (root path : Path) : Prop := ∃ names, names ≠ [] ∧ Leads root path names

/-- Texts that start with so many copies of any name do not start with more of them. -/
lemma not_lt_of_forall_replicate {m n : ℕ} {u v : List FileName}
    (h : ∀ x, List.replicate m x ++ u = List.replicate n x ++ v) : ¬ m < n := by
  intro hlt
  obtain ⟨k, rfl⟩ := Nat.exists_eq_add_of_lt hlt
  have hhead : ∀ x, u.head? = some x := by
    intro x
    have hx := h x
    rw [Nat.add_assoc, List.replicate_add, List.append_assoc, List.append_cancel_left_eq,
      List.replicate_succ] at hx
    rw [hx]
    rfl
  exact absurd ((hhead "a").symm.trans (hhead "b")) (by decide)

/-- Names that lead from one relative path to another from everywhere are there only if both climb
equally far. -/
lemma Leads.climb_eq {root path : Path} {names : List FileName} (hroot : .root ∉ root)
    (hpath : .root ∉ path) (h : Leads root path names) : climb root = climb path := by
  have hrootUps := climb_le_count root
  have hpathUps := climb_le_count path
  generalize hn : root.count .up + path.count .up = n
  -- a directory tells its depth, and the names in it could be any
  have hplaces : ∀ x, List.replicate (n - climb path) x ++ descent path =
      List.replicate (n - climb root) x ++ (descent root ++ names) := by
    intro x
    have hwalk := h (List.replicate n x) (by simp; omega) (by simp; omega)
    rw [walk_eq _ hroot, walk_eq _ hpath, List.append_assoc] at hwalk
    simpa using hwalk
  have hle := not_lt_of_forall_replicate hplaces
  have hge := not_lt_of_forall_replicate fun x => (hplaces x).symm
  omega

lemma isStep_of_mem_reduced {text : String} {part : Part} (h : part ∈ reduced (parse text)) :
    IsStep part := by
  rcases List.mem_append.1 h with h | h
  · exact Or.inl (List.mem_replicate.1 h).2
  · obtain ⟨name, hname, rfl⟩ := List.mem_map.1 h
    obtain ⟨written, rfl, hproper⟩ := exists_of_mem_parse (mem_of_mem_descent hname)
    exact Or.inr ⟨written, rfl, hproper⟩

section Below

variable {root path r : String}

/-- What is read off the normal forms of two paths that are both absolute or both relative. -/
lemma exists_of_relative? (habsolute : isAbsolute root = isAbsolute path)
    (h : relative? (parse root) (parse path) = some r) :
    ∃ rest, rest ≠ [] ∧ r = joinWith "/" (rest.map Part.text) ∧
      reduced (parse path) = reduced (parse root) ++ rest ∧ ∀ part ∈ rest, IsStep part := by
  obtain ⟨rest, hrest, hne, hr⟩ := relative?_eq_some_iff.1 h
  rw [normalize_parse, normalize_parse, slash, slash, habsolute, List.append_assoc,
    List.append_cancel_left_eq] at hrest
  refine ⟨rest, hne, hr, hrest, fun part hpart => ?_⟩
  have hmem : part ∈ reduced (parse path) := by
    rw [hrest]
    exact List.mem_append_right _ hpart
  exact isStep_of_mem_reduced hmem

/-- Paths that climb equally far differ in their names only. -/
lemma below_of_relative? (habsolute : isAbsolute root = isAbsolute path)
    (hclimb : climb (parse root) = climb (parse path))
    (h : relative? (parse root) (parse path) = some r) :
    ".." ∉ partsAt '/' r ∧ Below (parse root) (parse path) := by
  obtain ⟨rest, hne, rfl, hreduced, hsteps⟩ := exists_of_relative? habsolute h
  rw [(parts_joinWith_text hne hsteps).1]
  rw [reduced, reduced, hclimb, List.append_assoc, List.append_cancel_left_eq] at hreduced
  obtain ⟨start, names, hnames, hstart, rfl⟩ := List.map_eq_append_iff.1 hreduced
  obtain rfl : start = descent (parse root) :=
    List.map_injective_iff.2 (fun a b hab => Part.name.inj hab) hstart
  rw [map_text_map_name]
  refine ⟨fun hup => ?_, names, by simpa using hne, fun dir _ _ => ?_⟩
  · obtain ⟨name, hname, hshown⟩ := List.mem_map.1 hup
    have hdescent : name ∈ descent (parse path) := hnames ▸ List.mem_append_right _ hname
    obtain ⟨-, -, hproper⟩ := exists_of_mem_parse (mem_of_mem_descent hdescent)
    exact hproper.shown.ne_up (congrArg FileName.text hshown)
  · rw [walk_parse, walk_parse, habsolute, hclimb, hnames, List.append_assoc]

lemma relative?_of_leads (habsolute : isAbsolute root = isAbsolute path)
    (hclimb : climb (parse root) = climb (parse path)) {names : List FileName} (hne : names ≠ [])
    (h : Leads (parse root) (parse path) names) :
    relative? (parse root) (parse path) = some (FileName.path names) := by
  have hdescent : descent (parse path) = descent (parse root) ++ names := by
    have hwalk := h (List.replicate ((parse root).count .up + (parse path).count .up) "")
      (by simp) (by simp)
    rwa [walk_parse, walk_parse, habsolute, hclimb, List.append_assoc,
      List.append_cancel_left_eq] at hwalk
  refine relative?_eq_some_iff.2 ⟨names.map .name, ?_, by simpa using hne, ?_⟩
  · rw [normalize_parse, normalize_parse, slash, slash, habsolute, reduced, reduced, hclimb,
      hdescent, List.map_append, List.append_assoc, List.append_assoc]
  · rw [map_text_map_name, FileName.path]

/-- The path of a place below a directory, seen from there.  It is not empty, its parts are not
empty and none of them is `.`, and it leads in the normal forms from the directory to the place.  If
the two paths climb equally far, none of its parts is `..`, and there is one exactly if the one path
lies below the other.  If they are relative and do not, the one does not lie below the other. -/
theorem relative?_below (habsolute : isAbsolute root = isAbsolute path) :
    (∀ r, relative? (parse root) (parse path) = some r →
      r ≠ "" ∧ (∀ part ∈ partsAt '/' r, part ≠ "" ∧ part ≠ ".") ∧
        normalize (parse path) = normalize (parse root) ++ parse r) ∧
    (climb (parse root) = climb (parse path) →
      (∀ r, relative? (parse root) (parse path) = some r → ".." ∉ partsAt '/' r) ∧
        (relative? (parse root) (parse path) = none ↔ ¬ Below (parse root) (parse path))) ∧
    (isAbsolute root = false → climb (parse root) ≠ climb (parse path) →
      ¬ Below (parse root) (parse path)) := by
  refine ⟨fun r h => ?_, fun hclimb => ⟨fun r h => ?_, ?_⟩, fun hroot hclimb => ?_⟩
  · obtain ⟨rest, hne, rfl, hreduced, hsteps⟩ := exists_of_relative? habsolute h
    obtain ⟨hparts, hparse⟩ := parts_joinWith_text hne hsteps
    refine ⟨fun hempty => ?_, fun part hpart => ?_, ?_⟩
    · have hmem : "" ∈ partsAt '/' "" := by decide
      rw [hempty] at hparts
      exact (IsStep.text_ne hsteps (hparts ▸ hmem)).1 rfl
    · rw [hparts] at hpart
      exact ⟨(IsStep.text_ne hsteps hpart).1, (IsStep.text_ne hsteps hpart).2.1⟩
    · rw [hparse, normalize_parse, normalize_parse, slash, slash, habsolute, hreduced,
        List.append_assoc]
  · exact (below_of_relative? habsolute hclimb h).1
  · constructor
    · rintro hnone ⟨names, hne, hleads⟩
      rw [relative?_of_leads habsolute hclimb hne hleads] at hnone
      cases hnone
    · intro hbelow
      refine Option.eq_none_iff_forall_ne_some.2 fun r h => hbelow ?_
      exact (below_of_relative? habsolute hclimb h).2
  · rintro ⟨names, -, hleads⟩
    have hpath : isAbsolute path = false := habsolute ▸ hroot
    exact hclimb (hleads.climb_eq (root_not_mem_parse hroot) (root_not_mem_parse hpath))

end Below

/-- Below a directory that is itself counted from one level up. -/
theorem relative?_below_sibling :
    isAbsolute "../p" = isAbsolute "./../p/a/../b" ∧
      climb (parse "../p") = climb (parse "./../p/a/../b") ∧
      relative? (parse "../p") (parse "./../p/a/../b") = some "b" ∧
      ".." ∉ partsAt '/' "b" ∧
      normalize (parse "./../p/a/../b") = normalize (parse "../p") ++ parse "b" := by
  have habsolute : isAbsolute "../p" = isAbsolute "./../p/a/../b" := by decide +kernel
  have hclimb : climb (parse "../p") = climb (parse "./../p/a/../b") := by decide +kernel
  have hsome : relative? (parse "../p") (parse "./../p/a/../b") = some "b" := by decide +kernel
  obtain ⟨hforms, hbelow, -⟩ := relative?_below habsolute
  exact ⟨habsolute, hclimb, hsome, (hbelow hclimb).1 "b" hsome, (hforms "b" hsome).2.2⟩

/-- A path that climbs out of the current directory does not lie below it, but is given a path as
seen from there. -/
theorem relative?_below_climbing :
    isAbsolute "." = isAbsolute "../x" ∧ ¬ Below (parse ".") (parse "../x") ∧
      relative? (parse ".") (parse "../x") = some "../x" ∧ ".." ∈ partsAt '/' "../x" := by
  refine ⟨by decide +kernel, ?_, by decide +kernel, by decide +kernel⟩
  rintro ⟨names, -, hleads⟩
  have hclimb := hleads.climb_eq (by decide +kernel) (by decide +kernel)
  exact absurd hclimb (by decide +kernel)

end Strata.Path

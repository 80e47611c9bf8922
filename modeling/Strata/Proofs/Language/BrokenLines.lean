import Strata.Proofs.Language.InsertedLines
import Strata.Proofs.Masking.Cutting

/-!
# Breaking a line at a blank

A line feed in the place of a blank in code cuts one masked line in two.  The names that a Kotlin
source declares stay the same, as long as the declaration on that line has its name before the
blank: what comes new is only the name that the second part of the line declares when it is read as
a line of its own (`exportNames_lineBreak`).
-/

namespace Strata

open Strata.Text

/-! ### Names without their lines -/

/-- Adds a name that is not there yet. -/
def addName (names : List String) (name : String) : List String :=
  if name ∈ names then names else names ++ [name]

lemma map_name_distinctExports (entries : List Export) :
    (distinctExports entries).map Export.name = (entries.map Export.name).foldl addName [] := by
  have hadd : ∀ (known : List Export) (entry : Export),
      (addExport known entry).map Export.name = addName (known.map Export.name) entry.name := by
    intro known entry
    have hknown : (known.any fun e => e.name == entry.name) = true ↔
        entry.name ∈ known.map Export.name := by
      rw [List.any_eq_true, List.mem_map]
      simp only [beq_iff_eq]
    unfold addExport addName
    simp only [hknown]
    split
    · rfl
    · rw [List.map_append, List.map_singleton]
  have hfold : ∀ known : List Export, (entries.foldl addExport known).map Export.name =
      (entries.map Export.name).foldl addName (known.map Export.name) := by
    induction entries with
    | nil => exact fun known => rfl
    | cons entry entries ih =>
      intro known
      rw [List.foldl_cons, ih, hadd, List.map_cons, List.foldl_cons]
  exact hfold []

lemma mem_foldl_addName {name : String} {names known : List String} :
    name ∈ names.foldl addName known ↔ name ∈ known ∨ name ∈ names := by
  induction names generalizing known with
  | nil => simp
  | cons first names ih =>
    rw [List.foldl_cons, ih, addName]
    split <;> grind

namespace Language

open Strata.Masking

/-- The name that a line makes public, if it starts at depth zero. -/
def nameAt? (name? : List Char → Option String) (line : List Char × Nat) : Option String :=
  if line.2 = 0 then name? line.1 else none

/-- The names that lines at depth zero make public, if the first of them starts at a depth. -/
def topNames (step : Nat → Char → Nat) (name? : List Char → Option String) (depth : Nat)
    (lines : List (List Char)) : List String :=
  (withDepths step depth lines).filterMap (nameAt? name?)

variable {step : Nat → Char → Nat} {name? : List Char → Option String}

lemma map_name_topLevel (number depth : Nat) (lines : List (List Char)) :
    (topLevel step name? number depth lines).map Export.name = topNames step name? depth lines := by
  have hname : ∀ p : Nat × List Char × Nat,
      (exportAt? name? p.1 p.2).map Export.name = nameAt? name? p.2 := by
    intro p
    unfold exportAt? nameAt?
    split
    · cases name? p.2.1 <;> rfl
    · rfl
  have hnumber := map_snd_numberFrom number (withDepths step depth lines)
  rw [topLevel, List.map_filterMap]
  simp only [hname]
  rw [topNames, ← hnumber, List.filterMap_map, hnumber]
  rfl

lemma topNames_cons (depth : Nat) (line : List Char) (rest : List (List Char)) :
    topNames step name? depth (line :: rest) = (nameAt? name? (line, depth)).toList ++
      topNames step name? (line.foldl step depth) rest := by
  cases hline : nameAt? name? (line, depth) <;> simp [topNames, withDepths, hline]

lemma topNames_append (depth : Nat) (xs ys : List (List Char)) :
    topNames step name? depth (xs ++ ys) = topNames step name? depth xs ++
      topNames step name? (depthAfter step depth xs) ys := by
  rw [topNames, withDepths_append, List.filterMap_append]
  rfl

/-- A cut line makes public what it did, if its first part does, and then what its second part
does. -/
lemma exists_topNames_cutAt (hstep : ∀ depth c, isBlank c = true → step depth c = depth)
    {k n : Nat} {lines broken : List (List Char)} (h : CutAt k n lines broken)
    (hname : ∀ first gap rest, lines[k]? = some (first ++ gap ++ rest) → Blank gap →
      n ≤ (first ++ gap).length → name? (first ++ gap ++ rest) = name? first) :
    ∃ xs ys, topNames step name? 0 lines = xs ++ ys ∧ topNames step name? 0 broken =
      xs ++ ((withDepths step 0 broken)[k + 1]?.bind (nameAt? name?)).toList ++ ys := by
  -- the first part has the name of the line, at the same depth
  have hfirst : ∀ {start others : List (List Char)} {first gap rest : List Char},
      lines = start ++ (first ++ gap ++ rest) :: others → start.length = k → Blank gap →
      n ≤ (first ++ gap).length → ∀ depth,
      nameAt? name? (first ++ gap ++ rest, depth) = nameAt? name? (first, depth) := by
    rintro start others first gap rest rfl rfl hgap hn depth
    have hline : (start ++ (first ++ gap ++ rest) :: others)[start.length]? =
        some (first ++ gap ++ rest) := by simp
    rw [nameAt?, nameAt?, hname first gap rest hline hgap hn]
  cases h with
  | @inside start others first gap rest hk hgap hn =>
    generalize hdepth : depthAfter step 0 start = depth
    have hsecond : (withDepths step 0 (start ++ first :: rest :: others))[k + 1]? =
        some (rest, first.foldl step depth) := by
      rw [withDepths_append, hdepth, ← hk, ← length_withDepths step 0 start,
        List.getElem?_append_right (Nat.le_succ _)]
      simp [withDepths]
    refine ⟨topNames step name? 0 start ++ (nameAt? name? (first, depth)).toList,
      topNames step name? (rest.foldl step (first.foldl step depth)) others, ?_, ?_⟩
    · rw [topNames_append, hdepth, topNames_cons, hfirst rfl hk hgap hn, List.foldl_append,
        List.foldl_append, hgap.foldl_eq hstep, List.append_assoc]
    · rw [hsecond, topNames_append, hdepth, topNames_cons, topNames_cons]
      simp
  | @last start first gap hk hgap hn =>
    generalize hdepth : depthAfter step 0 start = depth
    have hlines : start ++ [first ++ gap] = start ++ (first ++ gap ++ []) :: [] := by simp
    have hsecond : (withDepths step 0 (start ++ [first]))[k + 1]? = none := by
      rw [List.getElem?_eq_none_iff, length_withDepths, List.length_append, hk,
        List.length_singleton]
    refine ⟨topNames step name? 0 start ++ (nameAt? name? (first, depth)).toList, [], ?_, ?_⟩
    · rw [hlines, topNames_append, hdepth, topNames_cons, hfirst hlines hk hgap hn]
      simp [topNames, withDepths]
    · rw [hsecond, topNames_append, hdepth, topNames_cons]
      simp [topNames, withDepths]

namespace Kotlin

/-- The name that a line of a masked source declares at the top level. -/
def declaredAt? (lines : List (List Char)) (k : Nat) : Option String :=
  (lines.zip (braceDepths lines))[k]?.bind fun (line, depth) =>
    if depth = 0 then exportOf? line else none

/-- The names that a source exports. -/
def exportNames (path : String) (content : List Char) : List String :=
  (outline path content).exports.map Export.name

lemma exportNames_eq (path : String) (content : List Char) :
    exportNames path content =
      (topNames braceStep exportOf? 0 (mask .kotlin content)).foldl addName [] := by
  rw [exportNames, outline, map_name_distinctExports, exportsOf_eq, map_name_topLevel]

lemma declaredAt?_eq (lines : List (List Char)) (k : Nat) :
    declaredAt? lines k = (withDepths braceStep 0 lines)[k]?.bind (nameAt? exportOf?) := by
  rw [declaredAt?, braceDepths, zip_braceDepthsFrom]
  rfl

lemma mem_exportNames_of_declaredAt? (path : String) {content : List Char} {k : Nat}
    {name : String} (h : declaredAt? (mask .kotlin content) k = some name) :
    name ∈ exportNames path content := by
  rw [declaredAt?_eq, Option.bind_eq_some_iff] at h
  obtain ⟨line, hline, hname⟩ := h
  rw [exportNames_eq, mem_foldl_addName, topNames, List.mem_filterMap]
  exact Or.inr ⟨line, List.mem_of_getElem? hline, hname⟩

/-- The name is the last thing that a declaration takes. -/
lemma exists_before_of_declaration {s t : Pattern.Spot} (h : t ∈ declaration.runs s) :
    ∃ c, t.before = some c ∧ isWord c = true := by
  obtain ⟨u, hu⟩ := Pattern.exists_mem_runs_of_chain rfl h
  obtain ⟨t', ht', rfl⟩ := List.mem_map.1 hu
  obtain ⟨c, hc, hword⟩ := Pattern.exists_before_of_some1 ht'
  refine ⟨c, hc, ?_⟩
  simpa [CharClass.contains] using hword

/-- A line declares what it declares up to a gap behind the name. -/
lemma exportOf?_append {first gap rest : List Char} (hgap : Blank gap)
    (hhead : ∀ found, declaration.match? (first ++ gap ++ rest) = some found →
      found.taken ≤ (first ++ gap).length) :
    exportOf? (first ++ gap ++ rest) = exportOf? first := by
  have hself : declaration.selfContained = true := by decide +kernel
  unfold exportOf?
  cases hfound : declaration.match? (first ++ gap ++ rest) with
  | none =>
    rw [List.append_assoc] at hfound
    rw [Pattern.match?_eq_none_of_append hself hfound]
  | some found =>
    obtain ⟨c, hc, hword⟩ := exists_before_of_declaration (List.mem_of_head? hfound)
    have htaken : found.taken ≤ first.length := by
      refine Pattern.taken_le_of_before_ne hfound (fun w hw heq => ?_) (hhead found hfound)
      obtain rfl : c = w := Option.some.inj (hc.symm.trans heq)
      rw [isWord_eq_false_of_isBlank (hgap c hw)] at hword
      cases hword
    rw [List.append_assoc] at hfound
    obtain ⟨found', hfound', hcaptured⟩ := Pattern.match?_of_match?_append hself hfound htaken
    rw [hfound']
    simp only [hcaptured]

/-- A line feed in the place of a blank in code, behind the name that its line declares, leaves the
exported names as they are, but that the rest of the line is now read on its own: the name that it
then declares at the top level is exported, too. -/
theorem exportNames_lineBreak {before after : List Char} {c : Char} (hc : isBlank c = true)
    (hcode : CodeAt .kotlin before (c :: after))
    (hhead : ∀ found ∈
      (mask .kotlin (before ++ c :: after))[(closedLines before).length]?.bind declaration.match?,
        found.taken ≤ (openLine before).length)
    (path : String) :
    (∀ name, name ∈ exportNames path (before ++ '\n' :: after) ↔
      name ∈ exportNames path (before ++ c :: after) ∨
        declaredAt? (mask .kotlin (before ++ '\n' :: after)) ((closedLines before).length + 1) =
          some name) ∧
    (declaredAt? (mask .kotlin (before ++ '\n' :: after)) ((closedLines before).length + 1) = none →
      exportNames path (before ++ '\n' :: after) = exportNames path (before ++ c :: after)) := by
  by_cases hn : c = '\n'
  · subst hn
    refine ⟨fun name => ⟨Or.inl, fun h => h.elim id fun hdeclared => ?_⟩, fun _ => rfl⟩
    exact mem_exportNames_of_declaredAt? path hdeclared
  · have hregular : Dialect.kotlin.Regular := Dialect.regular_of_mem_known (by simp [Dialect.known])
    have hcut := cutAt_mask hregular hc hn hcode
    obtain ⟨xs, ys, hlines, hbroken⟩ := exists_topNames_cutAt braceStep_blank hcut
      fun first gap rest hline hgap hcolumn => exportOf?_append hgap fun found hfound =>
        (hhead found (Option.bind_eq_some_iff.2 ⟨_, hline, hfound⟩)).trans hcolumn
    rw [← declaredAt?_eq] at hbroken
    refine ⟨fun name => ?_, fun hnone => ?_⟩
    · rw [exportNames_eq, exportNames_eq, mem_foldl_addName, mem_foldl_addName, hlines, hbroken]
      simp only [List.mem_append, Option.mem_toList, List.not_mem_nil, false_or]
      exact or_right_comm
    · rw [exportNames_eq, exportNames_eq, hlines, hbroken, hnone, Option.toList_none,
        List.append_nil]

/-- A source up to the second parameter of a constructor. -/
def userBefore : List Char := "package app\n\ndata class User(val name: String,".toList

/-- What follows the blank before that parameter. -/
def userAfter : List Char := "age: Int) // a person\n".toList

theorem exportNames_lineBreak_user :
    CodeAt .kotlin userBefore (' ' :: userAfter) ∧
      exportNames "User.kt" (userBefore ++ ' ' :: userAfter) = ["User"] ∧
      exportNames "User.kt" (userBefore ++ '\n' :: userAfter) = ["User"] := by
  have hcode : CodeAt .kotlin userBefore (' ' :: userAfter) := by decide +kernel
  have hhead : ∀ found ∈ (mask .kotlin (userBefore ++ ' ' :: userAfter))[
      (closedLines userBefore).length]?.bind declaration.match?,
      found.taken ≤ (openLine userBefore).length := by decide +kernel
  have hnone : declaredAt? (mask .kotlin (userBefore ++ '\n' :: userAfter))
      ((closedLines userBefore).length + 1) = none := by decide +kernel
  have hnames : exportNames "User.kt" (userBefore ++ ' ' :: userAfter) = ["User"] := by
    decide +kernel
  have hbreak := (exportNames_lineBreak (by decide) hcode hhead "User.kt").2 hnone
  exact ⟨hcode, hnames, hbreak.trans hnames⟩

/-- A parameter that is a property reads as a declaration of its own at the start of a line, and its
name is exported. -/
theorem exportNames_lineBreak_property :
    CodeAt .kotlin "class User(".toList " val name: String)".toList ∧
      "class User(".toList.foldl braceStep 0 = 0 ∧
      exportNames "User.kt" "class User( val name: String)".toList = ["User"] ∧
      exportNames "User.kt" "class User(\nval name: String)".toList = ["User", "name"] := by
  decide +kernel

end Kotlin

end Language

end Strata

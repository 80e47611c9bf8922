import Mathlib.Data.List.Find
import Strata.Proofs.Graph.RelativeImports

/-!
# Imports of modules by name

A Python file contributes the name of its module, the last segment of that name and, for each name
that it exports, this name alone and behind the name of the module.  All these names share one index,
and the first file that contributes a name keeps it.  So the import of a module by its whole name is
always resolved, but it leads to the module only if no file before it is known under the same name
by another of these ways (`classify_moduleName`).
-/

namespace Strata

open Strata.Text

namespace Index

lemma exists_dottedPrefixes_eq (name : String) :
    ∃ shorter, dottedPrefixes name = name :: shorter := by
  have hpos : 0 < (partsAt '.' name).length := List.length_pos_iff.2 (partsAt_ne_nil '.' name)
  obtain ⟨count, hcount⟩ := Nat.exists_eq_add_one_of_ne_zero hpos.ne'
  have hwhole : joinWith "." ((partsAt '.' name).take ((partsAt '.' name).length - 0)) = name := by
    rw [Nat.sub_zero, List.take_length]
    exact joinWith_partsAt '.' name
  refine ⟨((List.range count).map Nat.succ).map fun dropped =>
    joinWith "." ((partsAt '.' name).take ((partsAt '.' name).length - dropped)), ?_⟩
  have hrange : List.range (partsAt '.' name).length = 0 :: (List.range count).map Nat.succ := by
    rw [hcount, List.range_succ_eq_map]
  rw [dottedPrefixes, hrange, List.map_cons, hwhole]

/-- A name that is known as a whole is looked up as a whole. -/
lemma lookup?_of_symbol? {index : Index} {name path : String} (h : index.symbol? name = some path) :
    index.lookup? name = some path := by
  obtain ⟨shorter, hname⟩ := exists_dottedPrefixes_eq name
  rw [lookup?, hname, List.findSome?_cons_of_isSome (by simp [h]), h, Option.some_or]

end Index

namespace Language.Python

/-- The name of the module that a file holds. -/
def moduleName (path : String) : String := (moduleNames path).1

/-- The names of a file are those that its path gives; its exports may be any. -/
structure NamedByPath (file : OutlinedFile) : Prop where
  /-- The full name is that of the module. -/
  qualifiedName : file.2.qualifiedName = nonEmpty (moduleName file.1)
  /-- The exports are known under that name. -/
  exportNamespace : file.2.exportNamespace = nonEmpty (moduleName file.1)

lemma namedByPath_outline (path : String) (content : List Char) :
    NamedByPath (path, outline path content) := by
  constructor <;> simp only [outline, moduleName]

/-- The names besides that of its module under which a file is known. -/
def aliases (file : OutlinedFile) : List String :=
  Name.last (moduleName file.1) ::
    file.2.exports.flatMap fun entry => [Name.join (moduleName file.1) entry.name, entry.name]

lemma getD_nonEmpty (name : String) : (nonEmpty name).getD "" = name := by
  unfold nonEmpty
  split_ifs with hname
  · rw [hname]
    rfl
  · rfl

/-- A file contributes the name of its module and its aliases. -/
lemma NamedByPath.mem_contributed_iff {file : OutlinedFile} (h : NamedByPath file) {name : String}
    (hname : name ≠ "") :
    name ∈ Index.contributed file.2 ↔ name = moduleName file.1 ∨ name ∈ aliases file := by
  rw [Index.contributed, h.qualifiedName, h.exportNamespace, getD_nonEmpty, aliases, List.mem_append,
    List.mem_cons, ← or_assoc]
  refine or_congr_left ?_
  unfold nonEmpty
  split_ifs with hmodule
  · -- a file without a module name has no last segment either
    have hlast : Name.last "" = "" := by decide
    simp [hmodule, hlast, hname]
  · simp

end Language.Python

namespace Resolution

open Index Language.Python

/-- The import of a Python module by its whole name is resolved, whatever the files export, if no two
of them hold modules of the same name.  It leads to the file of the module if and only if the name is
no alias of a file that comes before it: not the last segment of the name of its module, not one of
its exports, and not one of them behind the name of its module. -/
theorem classify_moduleName {before after : List OutlinedFile} {file : OutlinedFile}
    (hnamed : ∀ other ∈ before ++ file :: after, NamedByPath other)
    (hdistinct : ((before ++ file :: after).map fun other => moduleName other.1).Nodup)
    (hname : moduleName file.1 ≠ "") (package : Option String) (line : ℕ) (statement : String) :
    let target := classify (ofFiles (before ++ file :: after)) package
      ⟨line, statement, .name (moduleName file.1)⟩
    target.2 = .resolved ∧
      (target.1 = file.1 ↔ ∀ earlier ∈ before, moduleName file.1 ∉ aliases earlier) := by
  intro target
  have hother : ∀ earlier ∈ before, moduleName file.1 ≠ moduleName earlier.1 := by
    intro earlier hearlier heq
    rw [List.map_append, List.map_cons, List.nodup_append] at hdistinct
    exact hdistinct.2.2 _ (List.mem_map_of_mem hearlier) _ List.mem_cons_self heq.symm
  have hcontributed : ∀ earlier ∈ before,
      moduleName file.1 ∈ contributed earlier.2 ↔ moduleName file.1 ∈ aliases earlier := by
    intro earlier hearlier
    rw [(hnamed earlier (List.mem_append_left _ hearlier)).mem_contributed_iff hname,
      or_iff_right (hother earlier hearlier)]
  have hfile : moduleName file.1 ∈ contributed file.2 :=
    ((hnamed file (by simp)).mem_contributed_iff hname).2 (Or.inl rfl)
  -- what comes behind the file does not matter, since the file contributes the name
  have hsymbol : (ofFiles (before ++ file :: after)).symbol? (moduleName file.1) =
      some (((before.find? fun earlier => moduleName file.1 ∈ aliases earlier).getD file).1) := by
    have hbefore : (before.find? fun earlier =>
          moduleName file.1 ∈ contributed earlier.2 ∧ moduleName file.1 ≠ "") =
        before.find? fun earlier => moduleName file.1 ∈ aliases earlier := by
      refine List.find?_congr fun earlier hearlier => ?_
      rw [decide_eq_decide, hcontributed earlier hearlier, and_iff_left hname]
    rw [symbol?_ofFiles, List.find?_append, hbefore, List.find?_cons_of_pos (by simp [hfile, hname])]
    cases before.find? fun earlier => moduleName file.1 ∈ aliases earlier <;> rfl
  have htarget : target =
      (((before.find? fun earlier => moduleName file.1 ∈ aliases earlier).getD file).1,
        .resolved) := by
    simp only [target, classify, lookup?_of_symbol? hsymbol]
    rfl
  rw [htarget]
  refine ⟨rfl, ?_⟩
  cases hfound : before.find? fun earlier => moduleName file.1 ∈ aliases earlier with
  | none => simpa using hfound
  | some earlier =>
    -- a file with another module has another path
    have hearlier := List.mem_of_find?_eq_some hfound
    have halias : moduleName file.1 ∈ aliases earlier := by simpa using List.find?_some hfound
    refine iff_of_false (fun hpath => hother earlier hearlier ?_) fun hnone => ?_
    · exact congrArg moduleName hpath.symm
    · exact hnone earlier hearlier halias

/-- A module whose last segment is the name of a file behind it. -/
theorem classify_moduleName_nested :
    let before := [pythonFile "main.py" "def app(): pass", pythonFile "src/app/__init__.py" ""]
    let nested := pythonFile "src/app/utils.py" "def main(): pass"
    let after := [pythonFile "utils.py" ""]
    let target := classify (ofFiles (before ++ nested :: after)) none
      ⟨1, "import app.utils", .name "app.utils"⟩
    ((before ++ nested :: after).map fun other => moduleName other.1) =
        ["main", "app", "app.utils", "utils"] ∧
      (∀ earlier ∈ before, "app.utils" ∉ aliases earlier) ∧
      target.2 = .resolved ∧ target.1 = "src/app/utils.py" := by
  intro before nested after target
  have hnamed : ∀ other ∈ before ++ nested :: after, NamedByPath other := by
    simp [before, nested, after, pythonFile, namedByPath_outline]
  have hmodules : ((before ++ nested :: after).map fun other => moduleName other.1) =
      ["main", "app", "app.utils", "utils"] := by decide +kernel
  have hdistinct : ((before ++ nested :: after).map fun other => moduleName other.1).Nodup := by
    rw [hmodules]
    decide
  have hmodule : moduleName nested.1 = "app.utils" := by decide +kernel
  have haliases : ∀ earlier ∈ before, "app.utils" ∉ aliases earlier := by decide +kernel
  have hagree := classify_moduleName hnamed hdistinct (by rw [hmodule]; decide) none 1
    "import app.utils"
  rw [hmodule] at hagree
  exact ⟨hmodules, haliases, hagree.1, hagree.2.2 haliases⟩

/-- A module is not found by its name if that is the last segment of the name of an earlier one. -/
theorem classify_moduleName_taken :
    let files := [pythonFile "a/utils.py" "", pythonFile "utils.py" ""]
    (files.map fun other => moduleName other.1) = ["a.utils", "utils"] ∧
      classify (ofFiles files) none ⟨1, "import utils", .name (moduleName "utils.py")⟩ =
        ("a/utils.py", .resolved) := by
  decide +kernel

end Resolution

end Strata

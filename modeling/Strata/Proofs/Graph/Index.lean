import Mathlib.Data.List.Basic
import Strata.Graph.Index

/-!
# Where the entries of an index come from

An index is built by adding file after file.  Each step adds only names that the file contributes
and the package that it belongs to, always with the path of this file.  So everything that can be
looked up in the index of some files is the path of one of them, and a name leads to the first file
that contributes it (`symbol?_ofFiles`).
-/

namespace Strata.Index

/-- Every entry of the index was contributed by one of the files. -/
structure DrawnFrom (index : Index) (files : List OutlinedFile) : Prop where
  /-- A name leads to a file that contributes it. -/
  symbols : ∀ entry ∈ index.symbols, ∃ file ∈ files,
    file.1 = entry.2 ∧ entry.1 ∈ contributed file.2
  /-- A package leads to a file that belongs to it. -/
  members : ∀ entry ∈ index.members, ∃ file ∈ files,
    file.1 = entry.2 ∧ file.2.package = some entry.1

lemma mem_claim {path key : String} {entries : List (String × String)} {entry : String × String}
    (h : entry ∈ claim path entries key) : entry ∈ entries ∨ entry = (key, path) := by
  unfold claim at h
  split at h
  · exact Or.inl h
  · rcases List.mem_append.1 h with h | h
    · exact Or.inl h
    · exact Or.inr (List.mem_singleton.1 h)

lemma mem_foldl_claim {path : String} {keys : List String} {entries : List (String × String)}
    {entry : String × String} (h : entry ∈ keys.foldl (claim path) entries) :
    entry ∈ entries ∨ entry.2 = path ∧ entry.1 ∈ keys := by
  induction keys generalizing entries with
  | nil => exact Or.inl h
  | cons key keys ih =>
    rcases ih h with h | ⟨hpath, hkey⟩
    · rcases mem_claim h with h | rfl
      · exact Or.inl h
      · exact Or.inr ⟨rfl, List.mem_cons_self⟩
    · exact Or.inr ⟨hpath, List.mem_cons_of_mem _ hkey⟩

namespace DrawnFrom

variable {index : Index} {files : List OutlinedFile} {file : OutlinedFile}

lemma addFile (h : index.DrawnFrom files) (hfile : file ∈ files) :
    (index.addFile file).DrawnFrom files where
  symbols := by
    intro entry hentry
    rcases mem_foldl_claim hentry with hentry | ⟨hpath, hkey⟩
    · exact h.symbols entry hentry
    · exact ⟨file, hfile, hpath.symm, hkey⟩
  members := by
    intro entry hentry
    rcases List.mem_append.1 hentry with hentry | hentry
    · exact h.members entry hentry
    · obtain ⟨package, hpackage, rfl⟩ := Option.map_eq_some_iff.1 (Option.mem_toList.1 hentry)
      exact ⟨file, hfile, rfl, hpackage⟩

variable {name path : String}

lemma symbol? (h : index.DrawnFrom files) (hpath : index.symbol? name = some path) :
    path ∈ files.map Prod.fst := by
  obtain ⟨entry, hentry, rfl⟩ := Option.map_eq_some_iff.1 hpath
  obtain ⟨file, hfile, hpath, -⟩ := h.symbols entry (List.mem_of_find?_eq_some hentry)
  exact List.mem_map.2 ⟨file, hfile, hpath⟩

lemma firstInPackage? (h : index.DrawnFrom files) (hpath : index.firstInPackage? name = some path) :
    path ∈ files.map Prod.fst := by
  obtain ⟨entry, hentry, rfl⟩ := List.mem_map.1 (List.mem_of_head? hpath)
  obtain ⟨file, hfile, hpath, -⟩ := h.members entry (List.mem_filter.1 hentry).1
  exact List.mem_map.2 ⟨file, hfile, hpath⟩

lemma lookup? (h : index.DrawnFrom files) (hpath : index.lookup? name = some path) :
    path ∈ files.map Prod.fst := by
  rcases Option.or_eq_some_iff.1 hpath with hpath | ⟨-, hpath⟩
  · obtain ⟨part, -, hpath⟩ := List.exists_of_findSome?_eq_some hpath
    exact h.symbol? hpath
  · exact h.firstInPackage? hpath

end DrawnFrom

section First

variable {name path : String}

lemma valueOf?_concat (key : String) (entries : List (String × String)) :
    valueOf? name (entries ++ [(key, path)]) =
      (valueOf? name entries).or (if name = key then some path else none) := by
  rw [valueOf?, List.find?_append, Option.map_or]
  by_cases hkey : name = key
  · simp [valueOf?, hkey]
  · simp [valueOf?, hkey, Ne.symm hkey]

/-- A name keeps its file; a claimed name without one gets it. -/
lemma valueOf?_claim (key : String) (entries : List (String × String)) :
    valueOf? name (claim path entries key) =
      (valueOf? name entries).or (if name = key ∧ name ≠ "" then some path else none) := by
  unfold claim
  split_ifs with hkept hname hname
  · obtain ⟨rfl, hne⟩ := hname
    obtain ⟨value, hvalue⟩ := Option.isSome_iff_exists.1 (hkept.resolve_left hne)
    rw [hvalue, Option.some_or]
  · rw [Option.or_none]
  · rw [valueOf?_concat, if_pos hname.1]
  · have hne : name ≠ key := by
      rintro rfl
      exact hname ⟨rfl, fun hempty => hkept (Or.inl hempty)⟩
    rw [valueOf?_concat, if_neg hne]

lemma valueOf?_foldl_claim (keys : List String) (entries : List (String × String)) :
    valueOf? name (keys.foldl (claim path) entries) =
      (valueOf? name entries).or (if name ∈ keys ∧ name ≠ "" then some path else none) := by
  induction keys generalizing entries with
  | nil => simp
  | cons key keys ih =>
    rw [List.foldl_cons, ih, valueOf?_claim, Option.or_assoc]
    congr 1
    by_cases hkey : name = key ∧ name ≠ ""
    · rw [if_pos hkey, Option.some_or, if_pos ⟨List.mem_cons.2 (Or.inl hkey.1), hkey.2⟩]
    · rw [if_neg hkey, Option.none_or]
      refine if_congr ?_ rfl rfl
      rw [List.mem_cons, or_and_right, or_iff_right hkey]

lemma symbol?_addFile (index : Index) (file : OutlinedFile) :
    (index.addFile file).symbol? name =
      (index.symbol? name).or
        (if name ∈ contributed file.2 ∧ name ≠ "" then some file.1 else none) :=
  valueOf?_foldl_claim _ _

/-- A name leads to the first file that contributes it. -/
lemma symbol?_ofFiles (files : List OutlinedFile) :
    (ofFiles files).symbol? name =
      (files.find? fun file => name ∈ contributed file.2 ∧ name ≠ "").map Prod.fst := by
  have hfold : ∀ index : Index, (files.foldl addFile index).symbol? name =
      (index.symbol? name).or
        ((files.find? fun file => name ∈ contributed file.2 ∧ name ≠ "").map Prod.fst) := by
    induction files with
    | nil => simp
    | cons file files ih =>
      intro index
      rw [List.foldl_cons, ih, symbol?_addFile, Option.or_assoc, List.find?_cons]
      by_cases hfile : name ∈ contributed file.2 ∧ name ≠ "" <;> simp [hfile]
  exact hfold {}

end First

end Strata.Index

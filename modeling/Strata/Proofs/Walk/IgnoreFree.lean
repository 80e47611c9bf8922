import Strata.Proofs.Path.Lookup
import Strata.Proofs.Walk.Directories
import Strata.Walk.Sources

/-!
# Trees without ignore files

Where no directory holds a file with rules about what to leave out, nothing is left out by such
rules, and the files that are found below a directory do not depend on where it lies.
-/

namespace Strata

namespace FileTree

/-- Whether something is there and is a file. -/
def isFile : Option FileTree → Bool
  | some (.file _) => true
  | _ => false

/-- Whether a directory holds a file with rules about what to leave out. -/
def holdsRules (tree : FileTree) : Bool :=
  isFile (tree.child? ".ignore") || isFile (tree.child? ".gitignore") ||
    isFile (tree.at? [".git", "info", "exclude"])

/-- Whether a directory with these entries holds none. -/
def ruleFree (entries : List (FileName × FileTree)) : Bool := !(dir entries).holdsRules

/-- Whether no directory of a tree holds such a file. -/
def ignoreFree (tree : FileTree) : Bool := tree.everyDir ruleFree

end FileTree

namespace Ignore

open FileTree

/-- There are no rules. -/
structure DirectoryRules.Silent (rules : DirectoryRules) : Prop where
  /-- None in `.ignore`. -/
  ignore : rules.ignore = []
  /-- None in `.gitignore`. -/
  gitignore : rules.gitignore = []
  /-- None in the exclude file. -/
  exclude : rules.exclude = []

lemma rulesIn_eq_nil {tree : Option FileTree} (h : isFile tree = false) : rulesIn tree = [] := by
  unfold rulesIn
  split
  · cases h
  · rfl

lemma DirectoryRules.silent_ofTree {tree : FileTree} (h : tree.ignoreFree = true) :
    (DirectoryRules.ofTree tree).Silent := by
  cases tree with
  | file content => exact ⟨rfl, rfl, rfl⟩
  | dir entries =>
    rw [ignoreFree, everyDir_dir_iff, ruleFree, Bool.not_eq_true', holdsRules, Bool.or_eq_false_iff,
      Bool.or_eq_false_iff] at h
    obtain ⟨⟨⟨hignore, hgitignore⟩, hexclude⟩, -⟩ := h
    exact ⟨rulesIn_eq_nil hignore, rulesIn_eq_nil hgitignore, rulesIn_eq_nil hexclude⟩

namespace Scope

/-- None of some scopes has rules. -/
def Silent (scopes : List Scope) : Prop := ∀ scope ∈ scopes, scope.rules.Silent

variable {scopes : List Scope}

lemma mem_of_mem_inRepository {scope : Scope} (h : scope ∈ inRepository scopes) :
    scope ∈ scopes := by
  induction scopes with
  | nil => exact h
  | cons first above ih =>
    unfold inRepository at h
    split_ifs at h
    · rw [List.mem_singleton.1 h]
      exact List.mem_cons_self
    · rcases List.mem_cons.1 h with rfl | h
      · exact List.mem_cons_self
      · exact List.mem_cons_of_mem _ (ih h)
    · exact absurd h List.not_mem_nil

lemma decide?_eq_none {kind : DirectoryRules → List Rule}
    (h : ∀ scope ∈ scopes, kind scope.rules = []) (name : FileName) (isDirectory : Bool) :
    decide? scopes kind name isDirectory = none := by
  rw [decide?, List.findSome?_eq_none_iff]
  intro scope hscope
  rw [h scope hscope]
  rfl

lemma Silent.ignores_eq_false (h : Silent scopes) (name : FileName) (isDirectory : Bool) :
    ignores scopes name isDirectory = false := by
  have hrepository : ∀ scope ∈ inRepository scopes, scope.rules.Silent :=
    fun scope hscope => h scope (mem_of_mem_inRepository hscope)
  unfold ignores
  dsimp only
  rw [decide?_eq_none fun scope hscope => (h scope hscope).ignore,
    decide?_eq_none fun scope hscope => (hrepository scope hscope).gitignore,
    decide?_eq_none fun scope hscope => (hrepository scope hscope).exclude]
  rfl

lemma Silent.descend (h : Silent scopes) (name : FileName) {below : FileTree}
    (hbelow : below.ignoreFree = true) : Silent (descend scopes name below) := by
  intro scope hscope
  rcases List.mem_cons.1 hscope with rfl | hscope
  · exact DirectoryRules.silent_ofTree hbelow
  · obtain ⟨other, hother, rfl⟩ := List.mem_map.1 hscope
    exact h other hother

end Scope

end Ignore

namespace Sources

open FileTree Ignore

variable {ecosystem : Ecosystem}

-- The walk recurses from a tree to its entries and back, and so do the two statements.
mutual

lemma filesIn_of_silent {scopes scopes' : List Scope} (names : List FileName)
    (hscopes : Scope.Silent scopes) (hscopes' : Scope.Silent scopes') :
    (tree : FileTree) → tree.ignoreFree = true →
      filesIn ecosystem scopes names tree = filesIn ecosystem scopes' names tree
  | .file _, _ => by rw [filesIn, filesIn]
  | .dir entries, htree => by
    rw [filesIn, filesIn]
    exact filesAmong_of_silent names hscopes hscopes' entries (everyDir_dir_iff.1 htree).2

lemma filesAmong_of_silent {scopes scopes' : List Scope} (names : List FileName)
    (hscopes : Scope.Silent scopes) (hscopes' : Scope.Silent scopes') :
    (entries : List (FileName × FileTree)) → everyDirAmong ruleFree entries = true →
      filesAmong ecosystem scopes names entries = filesAmong ecosystem scopes' names entries
  | [], _ => by rw [filesAmong, filesAmong]
  | (name, tree) :: rest, hentries => by
    obtain ⟨htree, hrest⟩ := everyDirAmong_cons_iff.1 hentries
    rw [filesAmong, filesAmong, hscopes.ignores_eq_false, hscopes'.ignores_eq_false,
      filesIn_of_silent (names ++ [name]) (hscopes.descend name htree)
        (hscopes'.descend name htree) tree htree,
      filesAmong_of_silent names hscopes hscopes' rest hrest]

end

/-- The sources of a tree without ignore files are the same wherever the tree lies. -/
lemma list_inProj (excludes : List (List Exclude.Token)) {tree : FileTree}
    (htree : tree.ignoreFree = true) :
    list ecosystem excludes [] tree [.here] =
      list ecosystem excludes [] tree.inProj [.name "proj"] := by
  cases tree with
  | file content =>
    unfold list
    rw [place_dot_file, place_inProj]
  | dir entries =>
    have htop := DirectoryRules.silent_ofTree htree
    have hsilent : Scope.Silent (scopesOf [] ⟨[], dir entries⟩) := by
      simpa [Scope.Silent, scopesOf, scopesAbove] using htop
    have hsilent' : Scope.Silent
        (scopesOf [] ⟨[("proj", (dir entries).inProj)], dir entries⟩) := by
      have habove : (DirectoryRules.ofTree (dir entries).inProj).Silent := ⟨rfl, rfl, rfl⟩
      simpa [Scope.Silent, scopesOf, scopesAbove] using ⟨htop, habove⟩
    unfold list
    rw [place_dot, place_inProj]
    dsimp only
    rw [filesAmong_of_silent [] hsilent hsilent' entries (everyDir_dir_iff.1 htree).2]

end Sources

end Strata

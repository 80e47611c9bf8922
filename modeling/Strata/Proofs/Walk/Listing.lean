import Strata.Proofs.Walk.IgnoreFree
import Strata.Proofs.Walk.Names

/-!
# The listed source files

The walk goes down into a directory unless it is pruned, and what it finds is filtered and put in
order.  In a tree without ignore files the result is described without the walk: a file is listed if
and only if a chain of entries leads to it, no directory of this chain is pruned, and its name and
its path pass the tests for source files (`IsSourceFile`).  The directory where the walk starts is
not part of the chain, so it is walked whatever its name.
-/

namespace Strata

open Strata.Text

/-! ### Chains of entries -/

namespace Sources

open FileTree Ignore

variable {ecosystem : Ecosystem}

/-- The steps lead from a tree to a file, and the walk takes them all: it passes over no directory
on the way. -/
def Finds (ecosystem : Ecosystem) (tree : FileTree) : List (FileName × FileTree) → Prop
  | [] => tree.isDirectory = false
  | step :: rest =>
    step ∈ tree.entries ∧ (step.2.isDirectory = true → prunes ecosystem step.1 step.2 = false) ∧
      Finds ecosystem step.2 rest

-- The walk recurses from a tree to its entries and back, and so do the two statements.
mutual

lemma mem_filesIn_iff {scopes : List Scope} (hscopes : Scope.Silent scopes)
    {names found : List FileName} :
    (tree : FileTree) → tree.ignoreFree = true →
      (found ∈ filesIn ecosystem scopes names tree ↔
        ∃ steps, Finds ecosystem tree steps ∧ found = names ++ steps.map Prod.fst)
  | .file content, _ => by
    rw [filesIn, List.mem_singleton]
    constructor
    · rintro rfl
      exact ⟨[], rfl, by simp⟩
    · rintro ⟨steps, hfinds, rfl⟩
      cases steps with
      | nil => simp
      | cons step rest => exact absurd hfinds.1 List.not_mem_nil
  | .dir entries, htree => by
    rw [filesIn, mem_filesAmong_iff hscopes entries (everyDir_dir_iff.1 htree).2]
    constructor
    · rintro ⟨step, rest, hfinds, rfl⟩
      exact ⟨step :: rest, hfinds, rfl⟩
    · rintro ⟨steps, hfinds, rfl⟩
      cases steps with
      | nil => cases hfinds
      | cons step rest => exact ⟨step, rest, hfinds, rfl⟩

lemma mem_filesAmong_iff {scopes : List Scope} (hscopes : Scope.Silent scopes)
    {names found : List FileName} :
    (entries : List (FileName × FileTree)) → everyDirAmong ruleFree entries = true →
      (found ∈ filesAmong ecosystem scopes names entries ↔
        ∃ step rest, Finds ecosystem (.dir entries) (step :: rest) ∧
          found = names ++ step.1 :: rest.map Prod.fst)
  | [], _ => by
    rw [filesAmong]
    refine iff_of_false List.not_mem_nil ?_
    rintro ⟨step, rest, hfinds, -⟩
    exact absurd hfinds.1 List.not_mem_nil
  | (name, tree) :: others, hentries => by
    obtain ⟨htree, hothers⟩ := everyDirAmong_cons_iff.1 hentries
    have hfirst : found ∈ (if (tree.isDirectory && prunes ecosystem name tree) = true then []
        else filesIn ecosystem (Scope.descend scopes name tree) (names ++ [name]) tree) ↔
        (tree.isDirectory = true → prunes ecosystem name tree = false) ∧
          ∃ rest, Finds ecosystem tree rest ∧ found = names ++ name :: rest.map Prod.fst := by
      rw [List.mem_ite_nil_left, mem_filesIn_iff (hscopes.descend name htree) tree htree,
        Bool.and_eq_true, not_and, Bool.not_eq_true]
      simp only [List.append_assoc, List.singleton_append]
    rw [filesAmong, hscopes.ignores_eq_false, Bool.false_or, List.mem_append,
      mem_filesAmong_iff hscopes others hothers, hfirst]
    constructor
    · rintro (⟨hopen, rest, hfinds, rfl⟩ | ⟨step, rest, ⟨hstep, hfinds⟩, rfl⟩)
      · exact ⟨(name, tree), rest, ⟨List.mem_cons_self, hopen, hfinds⟩, rfl⟩
      · exact ⟨step, rest, ⟨List.mem_cons_of_mem _ hstep, hfinds⟩, rfl⟩
    · rintro ⟨step, rest, ⟨hstep, hopen, hfinds⟩, rfl⟩
      rcases List.mem_cons.1 hstep with rfl | hstep
      · exact .inl ⟨hopen, rest, hfinds, rfl⟩
      · exact .inr ⟨step, rest, ⟨hstep, hopen, hfinds⟩, rfl⟩

end

end Sources

/-! ### Exclude globs -/

/-- A written glob is without fault, and the path fits it. -/
def Exclude.Covers (glob path : String) : Prop :=
  ∃ read, Exclude.tokens glob = .ok read ∧ Exclude.accepts read path = true

namespace Sources

variable {ecosystem : Ecosystem}

/-- A virtual environment and a module, with names that are no texts. -/
def unreadableTree : FileTree :=
  .dir [(.ofBytes [0x76, 0xFF],
      .dir [("pyvenv.cfg", .file (.text "")), ("site.py", .file (.text ""))]),
    (.ofBytes [0xE9, 0x2E, 0x70, 0x79], .file (.text ""))]

/-- The environment is entered, and the module passed over. -/
theorem list_unreadableTree :
    unreadableTree.wellNamed = true ∧ unreadableTree.ignoreFree = true ∧
      list .python [] [] unreadableTree (Path.parse ".") =
        [[FileName.ofBytes [0x76, 0xFF], .text "site.py"]] := by
  decide +kernel

end Sources

end Strata

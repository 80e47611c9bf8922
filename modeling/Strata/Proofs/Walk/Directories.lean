import Mathlib.Data.List.Basic
import Mathlib.Tactic.Common
import Strata.FileTree

/-!
# The directories of a tree

Much of what is known of a tree is known of each directory in it: which names stand there, which
files.  Such a property is given as a test on the entries of a directory (`everyDir`).  What lies
below shares it, so it holds wherever a path leads (`Place.All`).
-/

namespace Strata.FileTree

mutual

/-- Whether the entries of every directory of a tree pass a test. -/
def everyDir (test : List (FileName × FileTree) → Bool) : FileTree → Bool
  | .file _ => true
  | .dir entries => test entries && everyDirAmong test entries

/-- Whether the entries of every directory at or below some entries pass it. -/
def everyDirAmong (test : List (FileName × FileTree) → Bool) : List (FileName × FileTree) → Bool
  | [] => true
  | (_, tree) :: rest => tree.everyDir test && everyDirAmong test rest

end

section Every

variable {test : List (FileName × FileTree) → Bool}

lemma everyDir_dir_iff {entries : List (FileName × FileTree)} :
    (dir entries).everyDir test = true ↔ test entries = true ∧ everyDirAmong test entries = true :=
  Bool.and_eq_true_iff

lemma everyDirAmong_cons_iff {name : FileName} {tree : FileTree}
    {rest : List (FileName × FileTree)} :
    everyDirAmong test ((name, tree) :: rest) = true ↔
      tree.everyDir test = true ∧ everyDirAmong test rest = true :=
  Bool.and_eq_true_iff

end Every

/-- What stands at a place and every directory above it has a property. -/
structure Place.All (p : FileTree → Prop) (place : Place) : Prop where
  /-- What stands there. -/
  here : p place.here
  /-- The directories above. -/
  above : ∀ entry ∈ place.above, p entry.2

/-- Whichever way a path leads, down or up, it stays in the tree: a property that what lies below
shares with a tree is kept. -/
lemma Place.All.follow {p : FileTree → Prop}
    (hbelow : ∀ {tree below : FileTree} {name : FileName}, p tree → tree.child? name = some below →
      p below) {start place : Place} {path : Path} (hstart : start.All p)
    (hplace : start.follow path = .ok place) : place.All p := by
  fun_induction Place.follow start path with
  | case1 start =>
    cases hplace
    exact hstart
  | case2 => cases hplace
  | case3 => cases hplace
  | case4 start rest _ ih => exact ih hstart hplace
  | case5 => cases hplace
  | case6 start rest _ name parent others habove ih =>
    refine ih ⟨?_, ?_⟩ hplace
    · exact hstart.above (name, parent) (habove ▸ List.mem_cons_self)
    · exact fun entry hentry => hstart.above entry (habove ▸ List.mem_cons_of_mem _ hentry)
  | case7 => cases hplace
  | case8 start rest _ name below hchild ih =>
    refine ih ⟨hbelow hstart.here hchild, ?_⟩ hplace
    intro entry hentry
    rcases List.mem_cons.1 hentry with rfl | hentry
    · exact hstart.here
    · exact hstart.above entry hentry

end Strata.FileTree

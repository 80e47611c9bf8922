import Strata.FileTree
import Strata.Proofs.Path.Destination

/-!
# Following paths in a directory of its own

A tree is put into a directory that holds nothing else, under the name `proj`.  A path of names
that is followed in the tree leads to the same thing in the larger one if `proj` is put before it.
Other names lead nowhere there, and in either tree there is nothing above and nothing at an
absolute path.
-/

namespace Strata.FileTree

/-- A directory that holds a tree under the name `proj`, and nothing else. -/
def inProj (tree : FileTree) : FileTree := .dir [("proj", tree)]

lemma place_eq_follow (tree : FileTree) {path : Path} (hne : path ≠ [])
    (hroot : path.head? ≠ some .root) : tree.place path = Place.follow ⟨[], tree⟩ path := by
  rw [place, if_neg (not_or.2 ⟨hne, hroot⟩)]

lemma place_inProj (tree : FileTree) :
    tree.inProj.place [.name "proj"] = .ok ⟨[("proj", tree.inProj)], tree⟩ := rfl

lemma place_dot (entries : List (FileName × FileTree)) :
    (dir entries).place [.here] = .ok ⟨[], dir entries⟩ := rfl

lemma place_dot_file (content : Content) :
    (file content).place [.here] = .error .notDirectory := rfl

/-- A path that does not climb leads to the same thing whatever lies above. -/
lemma here_follow {path : Path} (hpath : .up ∉ path) (above above' : List (FileName × FileTree))
    (tree : FileTree) :
    (Place.follow ⟨above, tree⟩ path).map Place.here =
      (Place.follow ⟨above', tree⟩ path).map Place.here := by
  induction path generalizing above above' tree with
  | nil => rfl
  | cons part rest ih =>
    obtain ⟨hpart, hrest⟩ := not_or.1 (mt List.mem_cons.2 hpath)
    rw [Place.follow.eq_def, Place.follow.eq_def]
    dsimp only
    by_cases hdir : (!tree.isDirectory) = true
    · rw [if_pos hdir, if_pos hdir]
    · rw [if_neg hdir, if_neg hdir]
      cases part with
      | root => rfl
      | here => exact ih hrest above above' tree
      | up => exact absurd rfl hpart
      | name name =>
        dsimp only
        cases tree.child? name with
        | none => rfl
        | some below => exact ih hrest _ _ below

lemma lookup_eq_follow (tree : FileTree) {names : List FileName} (hne : names ≠ []) :
    tree.lookup (names.map .name) =
      (Place.follow ⟨[], tree⟩ (names.map .name)).map Place.here := by
  obtain ⟨name, rest, rfl⟩ := List.exists_cons_of_ne_nil hne
  rw [lookup, place_eq_follow _ (by simp) (by simp)]

lemma lookup_inProj (tree : FileTree) {names : List FileName} (hne : names ≠ []) :
    tree.inProj.lookup (.name "proj" :: names.map .name) = tree.lookup (names.map .name) := by
  rw [lookup_eq_follow tree hne, lookup, place_eq_follow _ (by simp) (by simp)]
  exact here_follow (by simp) _ _ tree

/-- A path leads nowhere. -/
def Absent (tree : FileTree) (path : Path) : Prop := ∃ error, tree.lookup path = .error error

section Absent

variable {tree : FileTree} {path : Path}

lemma Absent.isFileAt_eq_false (h : tree.Absent path) : tree.isFileAt path = false := by
  obtain ⟨error, herror⟩ := h
  rw [isFileAt, herror]

lemma Absent.isDirAt_eq_false (h : tree.Absent path) : tree.isDirAt path = false := by
  obtain ⟨error, herror⟩ := h
  rw [isDirAt, herror]

end Absent

/-- Nothing is known of what lies above. -/
lemma absent_up (tree : FileTree) (path : Path) : tree.Absent (.up :: path) := by
  cases tree with
  | file content => exact ⟨.notDirectory, rfl⟩
  | dir entries => exact ⟨_, rfl⟩

lemma absent_root (tree : FileTree) (path : Path) : tree.Absent (.root :: path) := ⟨.notFound, rfl⟩

lemma absent_nil (tree : FileTree) : tree.Absent [] := ⟨.notFound, rfl⟩

/-- Beside `proj` there is nothing. -/
lemma absent_beside (tree : FileTree) {names : List FileName} (hproj : names.head? ≠ some "proj") :
    tree.inProj.Absent (names.map .name) := by
  cases names with
  | nil => exact tree.inProj.absent_nil
  | cons name rest =>
    have hne : name ≠ "proj" := fun heq => hproj (congrArg some heq)
    have hchild : tree.inProj.child? name = none := by
      simp [child?, inProj, entries, hne.symm]
    have hdir : (!tree.inProj.isDirectory) = false := rfl
    refine ⟨.notFound, ?_⟩
    rw [lookup_eq_follow _ (List.cons_ne_nil name rest), List.map_cons, Place.follow, hdir]
    simp [hchild, Except.map]

end Strata.FileTree

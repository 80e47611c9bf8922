import Strata.Ascending
import Strata.Ecosystem
import Strata.Walk.Exclude
import Strata.Walk.Ignore

/-!
# Source files

The source files below a directory: those that an ecosystem handles, outside the directories it
never enters, without tests, ignored files and files that the user leaves out.  They are listed in
the order of their paths, compared name by name.
-/

namespace Strata.Sources

open Strata.Text

/-- Whether a directory is never entered: because of its name, or because it holds a virtual
environment.  A directory whose name is no text is always entered. -/
def prunes (ecosystem : Ecosystem) (name : FileName) (directory : FileTree) : Bool :=
  name.text?.any fun name =>
    ecosystem.prunesName name ||
      ecosystem.environmentMarker.any fun marker =>
        match directory.child? (.text marker) with
        | some (.file _) => true
        | _ => false

/-- The directories on the way from a place to what lies around it, with their rules. -/
def scopesAbove : List FileName → List (FileName × FileTree) → List Ignore.Scope
  | _, [] => []
  | names, (name, tree) :: above =>
    ⟨.ofTree tree, name :: names⟩ :: scopesAbove (name :: names) above

/-- The rules that apply in a directory, with those of the directories around the tree. -/
def scopesOf (around : List Ignore.Scope) (place : FileTree.Place) : List Ignore.Scope :=
  ⟨.ofTree place.here, []⟩ :: scopesAbove [] place.above ++
    around.map fun scope => { scope with names := scope.names ++ place.names }

mutual

/-- The files at or below a place that is reached by `names`.  Ignored entries and pruned
directories are passed over. -/
def filesIn (ecosystem : Ecosystem) (scopes : List Ignore.Scope) (names : List FileName) :
    FileTree → List (List FileName)
  | .file _ => [names]
  | .dir entries => filesAmong ecosystem scopes names entries

/-- The files at or below some entries of a directory that is reached by `names`. -/
def filesAmong (ecosystem : Ecosystem) (scopes : List Ignore.Scope) (names : List FileName) :
    List (FileName × FileTree) → List (List FileName)
  | [] => []
  | (name, tree) :: rest =>
    let skipped :=
      Ignore.Scope.ignores scopes name tree.isDirectory ||
        (tree.isDirectory && prunes ecosystem name tree)
    (if skipped then []
      else filesIn ecosystem (Ignore.Scope.descend scopes name tree) (names ++ [name]) tree) ++
      filesAmong ecosystem scopes names rest

end

/-- Whether a file below the root is a source to analyse.  A name that is no text counts as empty
when it comes to its ending. -/
def isSource (ecosystem : Ecosystem) (excludes : List (List Exclude.Token))
    (names : List FileName) : Bool :=
  let path := FileName.path names
  (names.getLast?.any fun name => ecosystem.handles (name.text?.getD "")) &&
    !ecosystem.isTestFile path &&
    !excludes.any fun glob => Exclude.accepts glob path

/-- The order of paths, name by name. -/
def pathBefore : List FileName → List FileName → Bool
  | _, [] => false
  | [], _ :: _ => true
  | a :: as, b :: bs => a.before b || (a == b && pathBefore as bs)

/-- The source files below a path, each as the names that lead to it.  The rules of the directories
around the tree are given as `around`. -/
def list (ecosystem : Ecosystem) (excludes : List (List Exclude.Token))
    (around : List Ignore.Scope) (tree : FileTree) (root : Path) : List (List FileName) :=
  match tree.place root with
  | .ok place =>
    match place.here with
    | .file _ => []
    | .dir entries =>
      let files := filesAmong ecosystem (scopesOf around place) [] entries
      Ascending.sort pathBefore (files.filter (isSource ecosystem excludes))
  | .error _ => []

end Strata.Sources

import Strata.Config.Reading
import Strata.Walk.Ignore

/-!
# The surroundings of a run

What a run can see of the computer: the working directory with everything below it, and a few
files elsewhere.  From this the configuration file is chosen.  A file given by the user comes
first, then the nearest one in the checked directory or above it, and then the user's own.
-/

namespace Strata.Command

open Strata.Text

/-- The surroundings of a run. -/
structure World where
  /-- The absolute name of the working directory, without a slash at its end. -/
  label : String
  /-- The working directory. -/
  tree : FileTree
  /-- The absolute name of the user's home directory. -/
  home : Option String := none
  /-- The absolute name of the directory of the user's own configuration, if it was set. -/
  configDir : Option String := none
  /-- The rules of ignore files in the directories above the working directory. -/
  around : List Ignore.Scope := []
  /-- What is known to stand at paths that lead out of the working directory. -/
  outside : List (String × FileTree) := []
  /-- The absolute names of what such paths mean. -/
  absolute : List (String × String) := []
  /-- For directories outside that are analysed, a tree that holds them and where in it. -/
  elsewhere : List (String × FileTree × String) := []

namespace World

/-- What stands at a path, which may also be the absolute name of something below the working
directory. -/
def find (world : World) (path : String) : Except LookupError FileTree :=
  match world.outside.lookup path, afterStart? (world.label ++ "/") path with
  | some item, _ => .ok item
  | none, some rest => world.tree.lookup (Path.steps ("./" ++ rest))
  | none, none => world.tree.lookup (Path.steps path)

/-- Whether a file stands at a path. -/
def hasFile (world : World) (path : String) : Bool :=
  match world.find path with
  | .ok (.file _) => true
  | _ => false

/-- The text of the file at a path. -/
def readText (world : World) (path : String) : Except LookupError String :=
  match world.find path with
  | .error e => .error e
  | .ok (.dir _) => .error .isDirectory
  | .ok (.file content) =>
    match content.text? with
    | some text => .ok text
    | none => .error .notText

/-- Where to analyse a directory: the tree that holds it, its path in the tree, and the rules
around the tree. -/
def site (world : World) (root : String) : List Ignore.Scope × FileTree × String :=
  match world.elsewhere.lookup root with
  | some found => ([], found)
  | none => (world.around, world.tree, root)

end World

/-- The names of a project's configuration file, in the order in which they are tried. -/
def configNames : List String := ["layer-lint.toml", ".layer-lint.toml"]

/-- What is left of a list when more and more of its end is dropped, the whole list first. -/
def dropsFromEnd {α : Type} (items : List α) : List (List α) :=
  (List.range (items.length + 1)).map fun n => items.take (items.length - n)

/-- The directories from a path upwards, as they are written. -/
def upwards (path : String) : List String :=
  path :: ((dropsFromEnd (Path.parse path)).drop 1).map Path.text

/-- The directories to look in for the configuration of what lies at a path, nearest first. -/
def searched (world : World) (path : String) : List String :=
  match world.tree.place (Path.steps path), world.absolute.lookup path with
  | .ok place, _ =>
    (dropsFromEnd place.names).map (fun names => FileName.path (world.label :: names)) ++
      (if Path.isAbsolute world.label then (upwards world.label).drop 1 else [])
  | .error _, some name => upwards name
  | .error .outside, none => []
  | .error _, none => upwards path

/-- Where the configuration file of the project that a path belongs to may be, nearest first. -/
def projectConfigPaths (world : World) (path : String) : List String :=
  (searched world path).flatMap fun dir => configNames.map (Path.joinText dir)

/-- The configuration file of the project that a path belongs to. -/
def projectConfig? (world : World) (path : String) : Option String :=
  (projectConfigPaths world path).find? world.hasFile

/-- Where the user's own configuration file would be. -/
def ownConfigPath? (world : World) : Option String :=
  (world.configDir.or (world.home.map fun home => Path.joinText home ".layer-lint")).map fun dir =>
    Path.joinText dir "config.toml"

/-- The paths where a configuration file may be found. -/
def configPaths (world : World) (given : Option String) (path : String) : List String :=
  given.toList ++ projectConfigPaths world path ++ (ownConfigPath? world).toList

/-- The user's own configuration file. -/
def ownConfig? (world : World) : Option String :=
  (ownConfigPath? world).filter world.hasFile

/-- The configuration file for checking a path. -/
def configFor? (world : World) (given : Option String) (path : String) : Option String :=
  given.or <| (projectConfig? world path).or (ownConfig? world)

/-- Reads a configuration file. -/
def loadConfig (world : World) (path : String) : Except Config.ReadError Config :=
  match world.readText path with
  | .ok text => Config.parse text
  | .error cause => .error (.unreadable path cause)

end Strata.Command

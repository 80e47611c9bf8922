import Strata.Command

/-!
# The program

Reads the surroundings of a run from the computer, runs the command line on them, and prints and
writes what comes of it.  Only the analysed directory is read with everything below it; of the
directories on the way to it nothing but ignore files and configuration files is looked at.
-/

open Strata

namespace Strata.Main

/-- The result of an action, or nothing if it fails. -/
def attempt {α : Type} (action : IO α) : IO (Option α) := do
  try return some (← action)
  catch _ => return none

/-- The file of this name with its content, if there is one. -/
def file? (name : String) : IO (Option FileTree) :=
  attempt do return .file (.ofBytes (← IO.FS.readBinFile name))

/-- The file of this name, or an empty directory in place of a directory. -/
def entry? (name : String) : IO (Option FileTree) := do
  match ← attempt (⟨name, "."⟩ : IO.FS.DirEntry).path.readDir with
  | some _ => return some .empty
  | none => file? name

/-- The absolute name of what stands at a path. -/
def realName? (path : String) : IO (Option String) :=
  attempt do return (← IO.FS.realPath path).toString

/-- The names in an absolute path. -/
def namesIn (path : String) : List String :=
  (Text.partsAt '/' path).filter (· != "")

/-- The absolute path with these names. -/
def absolute (names : List String) : String := "/" ++ Text.joinWith "/" names

/-- The files that are looked at in every directory on the way to the analysed one. -/
def lookedAt : List (List String) :=
  [[".ignore"], [".gitignore"], [".git", "info", "exclude"]] ++ Command.configNames.map ([·])

/-- A directory with nothing in it but the files that are looked at on the way. -/
def shallow (names : List String) : IO FileTree := do
  let mut tree := FileTree.empty
  if (← entry? (absolute (names ++ [".git"]))).isSome then
    tree := FileTree.insert .empty [".git"] tree
  for path in lookedAt do
    if let some item ← entry? (absolute (names ++ path)) then
      tree := FileTree.insert item (path.map .text) tree
  return tree

/-- Whether the content of a file of this name matters to an analysis. -/
def matters (ecosystem : Option Ecosystem) (name : String) : Bool :=
  ecosystem.any (·.handles name) || [".ignore", ".gitignore", "exclude"].contains name

/-- An entry of a directory with everything below it.  Links and what cannot be read are passed
over, and so is the content of files that do not matter. -/
partial def deep (ecosystem : Option Ecosystem) (entry : IO.FS.DirEntry) :
    IO (Option FileTree) := do
  match (← attempt entry.path.symlinkMetadata).map IO.FS.Metadata.type with
  | some .dir =>
    let mut entries := #[]
    for below in (← attempt entry.path.readDir).getD #[] do
      if let some tree ← deep ecosystem below then
        entries := entries.push (.text below.fileName, tree)
    return some (.dir entries.toList)
  | some .file =>
    if matters ecosystem entry.fileName then
      return (← attempt (IO.FS.readBinFile entry.path)).map fun bytes => .file (.ofBytes bytes)
    else return some (.file (.text ""))
  | _ => return none

/-- A tree in which the directory reached by `names` from `top` holds `item`, and the directories
on the way to it what is looked at there. -/
def chain (top names : List String) (item : FileTree) (tree : FileTree) : IO FileTree := do
  let mut tree := tree
  for way in (Command.dropsFromEnd names).reverse.dropLast do
    if (tree.at? (way.map .text)).isNone then
      tree := FileTree.insert (← shallow (top ++ way)) (way.map .text) tree
  return FileTree.insert item (names.map .text) tree

/-- A path inside the working directory as the names that lead to it. -/
def inside? (world : Command.World) (path : String) : IO (Option (List String)) := do
  let top := namesIn world.label
  let names := (← realName? path).map namesIn
  return names.bind fun names => if top.isPrefixOf names then some (names.drop top.length) else none

/-- Adds to the working directory what stands at a path in it. -/
def see (world : Command.World) (path : String) : IO Command.World := do
  match ← inside? world path, ← entry? path with
  | some [], _ => return world
  | some names, some item =>
    return { world with tree := ← chain (namesIn world.label) names item world.tree }
  | _, _ => return world

/-- The working directory, with the rules of the directories above it. -/
def surroundings : IO Command.World := do
  let names := namesIn (← IO.currentDir).toString
  let here ← shallow names
  let around ← (((Command.dropsFromEnd names).drop 1).mapM fun above => do
    return (⟨.ofTree (← shallow above), (names.drop above.length).map .text⟩ : Ignore.Scope))
  return {
    label := if names.isEmpty then "" else absolute names
    tree := here
    around := around
    home := ← IO.getEnv "HOME"
    configDir := ← IO.getEnv "LAYER_LINT_CONFIG_DIR" }

/-- Adds the analysed directory with everything below it. -/
def seeRoot (world : Command.World) (config : Config) (root : String) : IO Command.World := do
  match ← realName? root with
  | none => return world
  | some name =>
    let within ← if Path.isAbsolute root then pure none else inside? world root
    match ← deep config.ecosystem ⟨name, "."⟩, within with
    | none, _ => return world
    | some item, none =>
      let tree ← chain [] (namesIn name) item .empty
      return { world with elsewhere := [(root, tree, Text.joinWith "/" (namesIn name))] }
    | some item, some [] => return { world with tree := item }
    | some item, some names =>
      return { world with tree := ← chain (namesIn world.label) names item world.tree }

/-- Adds what a check needs to see. -/
def prepareCheck (path : String) (given : Option String) (ecosystem : Option Ecosystem)
    (exclude : List String) : IO Command.World := do
  let mut world ← surroundings
  for name in Command.upwards path do
    world ← see world name
  if (← inside? world path).isNone then
    world := { world with absolute := ((← realName? path).map fun name => (path, name)).toList }
  for name in Command.configPaths world given path do
    if let some item ← entry? name then
      world := { world with outside := (name, item) :: world.outside }
  match Command.checkConfig world path given ecosystem exclude with
  | .error _ => return world
  | .ok config => seeRoot world config (Command.analysisRoot path config.root)

/-- What a request needs to see. -/
def prepare : Command.Request → IO Command.World
  | .check path given _ ecosystem exclude => prepareCheck path given ecosystem exclude
  | .init _ _ => surroundings
  | _ => return { label := "", tree := .empty }

end Strata.Main

/-- Runs the program. -/
def main (args : List String) : IO UInt32 := do
  let outcome ← match Command.parse? args with
    | none =>
      IO.eprint Command.helpText
      pure Command.Outcome.misused
    | some request => pure (Command.perform (← Strata.Main.prepare request) request)
  if let some (path, text) := outcome.written then IO.FS.writeFile path text
  IO.print outcome.output
  if let some failure := outcome.failure then IO.eprintln ("Error: " ++ failure.report)
  return UInt32.ofNat outcome.exit

import Strata.FileName

/-!
# Paths

A path is the list of its components.  Paths are compared, joined and normalised as lists; the
file system is not consulted.  An inner or trailing `.` and doubled slashes carry no meaning and
are no components; a leading `.` is one.
-/

namespace Strata

open Strata.Text

/-- A component of a path. -/
inductive Part where
  /-- The slash at the start of an absolute path. -/
  | root
  /-- A leading `.`, the directory itself. -/
  | here
  /-- The component `..`, the directory above. -/
  | up
  /-- The name of a file or directory. -/
  | name (text : FileName)
deriving DecidableEq, Repr, Inhabited

/-- What is written for a component. -/
def Part.written : Part → FileName
  | root => "/"
  | here => "."
  | up => ".."
  | name text => text

/-- How a component is shown. -/
def Part.text (part : Part) : String := part.written.shown

/-- A path, as the list of its components. -/
abbrev Path := List Part

namespace Path

/-- The component written by a part between slashes, if it is one. -/
def partOf? (text : String) : Option Part :=
  if text = "" ∨ text = "." then none
  else if text = ".." then some .up
  else some (.name text)

/-- Whether a text is an absolute path. -/
def isAbsolute (text : String) : Bool :=
  hasStart "/" text

/-- The steps along a written path, one for each of its parts: where a part is empty or `.`, there
has to be a directory, but the path goes on from it. -/
def steps (text : String) : Path :=
  if text = "" then []
  else if isAbsolute text then [.root]
  else (partsAt '/' text).map fun part => (partOf? part).getD .here

/-- Reads a path. -/
def parse (text : String) : Path :=
  let pieces := partsAt '/' text
  let start : Path :=
    if isAbsolute text then [.root] else if pieces.head? = some "." then [.here] else []
  start ++ pieces.filterMap partOf?

/-- How a path is shown. -/
def text : Path → String
  | .root :: rest => "/" ++ joinWith "/" (rest.map Part.text)
  | parts => joinWith "/" (parts.map Part.text)

/-- The path `rest` as seen from `base`: an absolute path stays what it is. -/
def join (base rest : Path) : Path :=
  if rest.head? = some .root then rest else base ++ rest

/-- Joins two written paths, with a slash between them unless one is there already. -/
def joinText (base rest : String) : String :=
  if isAbsolute rest then rest
  else if base = "" || hasEnd "/" base then base ++ rest
  else base ++ "/" ++ rest

/-- One step of normalisation.  The components kept so far stand in `kept`, last one first: `..`
takes the last of them away unless there is none to take. -/
def normalStep (kept : Path) : Part → Path
  | .here => kept
  | .up =>
    match kept with
    | [] => [.up]
    | [.root] => [.up, .root]
    | _ :: rest => rest
  | part => part :: kept

/-- The path with `.` and `..` resolved by looking at the components alone. -/
def normalize (path : Path) : Path :=
  (path.foldl normalStep []).reverse

/-- The last component, if it is a name. -/
def fileName? (path : Path) : Option FileName :=
  match path.getLast? with
  | some (.name name) => some name
  | _ => none

/-- A path with an ending written behind it. -/
def addEnding (ending : String) : Path → Path
  | [] => [.name ending]
  | [.root] => [.root, .name ending]
  | [part] => [.name (part.written.append ending)]
  | part :: rest => part :: addEnding ending rest

/-- A path as it is shown, without an ending. -/
def dropEnding? (ending : String) : Path → Option Path
  | [] => none
  | [.name name] => (beforeEnd? ending name.shown).map fun start => [.name (.text start)]
  | [_] => none
  | .name name :: rest => (dropEnding? ending rest).map (.name name.shown :: ·)
  | part :: rest => (dropEnding? ending rest).map (part :: ·)

/-- What is left of `path` after the leading components `base`. -/
def stripBase? : (base path : Path) → Option Path
  | [], path => some path
  | _ :: _, [] => none
  | b :: base, p :: path => if b = p then stripBase? base path else none

/-- Where `path` lies below `root`, shown with slashes; nothing if it lies outside or is the
root itself. -/
def relative? (root path : Path) : Option String :=
  match stripBase? (normalize root) (normalize path) with
  | none => none
  | some [] => none
  | some parts => some (joinWith "/" (parts.map Part.text))

/-- The part of a slashed path after its last slash. -/
def fileNameOf (path : String) : String :=
  (partsAt '/' path).getLast?.getD path

/-- The file name in a slashed path up to its first dot. -/
def stem (path : String) : String :=
  (partsAt '.' (fileNameOf path)).head?.getD ""

end Path

end Strata

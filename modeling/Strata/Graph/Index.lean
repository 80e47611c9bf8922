import Strata.Outline

/-!
# The index of names

Which analysed file a dotted name means.  A file contributes its own full name, the names it
exports inside its namespace, and the last segments of both; the first file that contributes a
name keeps it.  Files are also listed by package, and the leading segments of the packages tell
which names look local.
-/

namespace Strata

/-- A file of the analysis: its path and its outline. -/
abbrev OutlinedFile := String × Outline

/-- What is known about the names of all analysed files. -/
structure Index where
  /-- The file of each name. -/
  symbols : List (String × String) := []
  /-- The package of each file that has one, and the file. -/
  members : List (String × String) := []
  /-- The packages and their leading segments. -/
  prefixes : List String := []
deriving DecidableEq, Repr

namespace Index

/-- The value stored under a key. -/
def valueOf? (key : String) (entries : List (String × String)) : Option String :=
  (entries.find? fun entry => entry.1 == key).map Prod.snd

/-- Stores a value under a key that is not empty and has none yet. -/
def claim (path : String) (entries : List (String × String)) (key : String) :
    List (String × String) :=
  if key = "" ∨ (valueOf? key entries).isSome then entries else entries ++ [(key, path)]

/-- The names that a file contributes, in order. -/
def contributed (outline : Outline) : List String :=
  (match outline.qualifiedName with
    | some name => [name, Name.last name]
    | none => []) ++
  outline.exports.flatMap fun entry =>
    [Name.join (outline.exportNamespace.getD "") entry.name, entry.name]

/-- The leading parts of a package name that make other names look local. -/
def localPrefixes (package : String) : List String :=
  package :: [1, 2].filterMap (Name.leading package)

/-- Adds a file. -/
def addFile (index : Index) (file : OutlinedFile) : Index where
  symbols := (contributed file.2).foldl (claim file.1) index.symbols
  members := index.members ++ (file.2.package.map fun package => (package, file.1)).toList
  prefixes := index.prefixes ++ (file.2.package.map localPrefixes).getD []

/-- The index of some files. -/
def ofFiles (files : List OutlinedFile) : Index :=
  files.foldl addFile {}

/-- How many names are known. -/
def size (index : Index) : Nat := index.symbols.length

/-- The file that has claimed exactly this name. -/
def symbol? (index : Index) (name : String) : Option String :=
  valueOf? name index.symbols

/-- The files of a package, in order. -/
def packageFiles (index : Index) (package : String) : List String :=
  (index.members.filter fun entry => entry.1 == package).map Prod.snd

/-- The first file of a package. -/
def firstInPackage? (index : Index) (package : String) : Option String :=
  (index.packageFiles package).head?

/-- The parts of a dotted name that start it and end before a dot, the whole name first. -/
def dottedPrefixes (name : String) : List String :=
  let parts := Text.partsAt '.' name
  (List.range parts.length).map fun dropped =>
    Text.joinWith "." (parts.take (parts.length - dropped))

/-- The file that a dotted name leads to: that of its longest part that is known, else the first
file of the package of this name. -/
def lookup? (index : Index) (name : String) : Option String :=
  ((dottedPrefixes name).findSome? index.symbol?).or (index.firstInPackage? name)

/-- Whether a name shares its first segment, or its first two, with a package. -/
def looksLocal (index : Index) (name : String) : Bool :=
  index.prefixes.contains (Name.root name) ||
    (Name.leading name 2).any index.prefixes.contains

end Index

end Strata

import Strata.Name

/-!
# Outlines

The outline of a source file is what the analysis keeps of it: what it imports, which names it
offers to others and on which line, and which suspicious lines were found in it.
-/

namespace Strata

/-- What an import refers to, as far as the importing file alone tells. -/
inductive Target where
  /-- A file specifier as it is written, with the file it was found to mean. -/
  | path (specifier : String) (resolved : Option String)
  /-- A dotted name. -/
  | name (text : String)
  /-- Everything in a package. -/
  | wildcard (package : String)
  /-- A name counted from the importing file's package, `level` dots up; `all` if everything in it
  is meant. -/
  | relative (level : Nat) (name : String) (all : Bool)
deriving DecidableEq, Repr

/-- An import statement, or one of the names that it imports. -/
structure Import where
  /-- The line where the statement begins, counted from one. -/
  line : Nat
  /-- The text of the statement. -/
  statement : String
  /-- What is imported. -/
  target : Target
deriving DecidableEq, Repr

/-- A kind of code that does not belong in a view. -/
inductive SignalKind where
  /-- A direct call to the network. -/
  | networking
  /-- Decoding of JSON. -/
  | jsonDecoding
  /-- Arithmetic done by reducing a sequence. -/
  | aggregationArithmetic
deriving DecidableEq, Repr

namespace SignalKind

/-- The name of a kind in data formats. -/
def name : SignalKind → String
  | networking => "networking"
  | jsonDecoding => "json-decoding"
  | aggregationArithmetic => "aggregation-arithmetic"

/-- The kind in words. -/
def describe : SignalKind → String
  | networking => "direct networking call"
  | jsonDecoding => "JSON decoding"
  | aggregationArithmetic => "reduce-based arithmetic"

end SignalKind

/-- A suspicious line inside a view. -/
structure Signal where
  /-- What was found. -/
  kind : SignalKind
  /-- Its line, counted from one. -/
  line : Nat
  /-- The name of the view around it. -/
  scope : String
  /-- The line itself without blanks at its ends. -/
  text : String
deriving DecidableEq, Repr

/-- A name that a file offers to others. -/
structure Export where
  /-- The name. -/
  name : String
  /-- The line of its declaration, counted from one. -/
  line : Nat
deriving DecidableEq, Repr

/-- What the analysis keeps of a source file. -/
structure Outline where
  /-- The package that the file belongs to. -/
  package : Option String := none
  /-- The full name of the file itself. -/
  qualifiedName : Option String := none
  /-- The name under which the exported names are known elsewhere. -/
  exportNamespace : Option String := none
  /-- The imports in source order. -/
  imports : List Import := []
  /-- The exported names, each once, in source order. -/
  exports : List Export := []
  /-- The suspicious lines. -/
  signals : List Signal := []
deriving DecidableEq, Repr

/-- Adds an exported name; a name that is there already keeps its first line. -/
def addExport (exports : List Export) (entry : Export) : List Export :=
  if exports.any fun known => known.name == entry.name then exports else exports ++ [entry]

/-- The exported names in order, each with its first line only. -/
def distinctExports (entries : List Export) : List Export :=
  entries.foldl addExport []

/-- Pairs each element of a list with its place, counted from `first`. -/
def numberFrom {α : Type} (first : Nat) : List α → List (Nat × α)
  | [] => []
  | a :: rest => (first, a) :: numberFrom (first + 1) rest

end Strata

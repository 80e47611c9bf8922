import Strata.Path

/-!
# Ecosystems

The four kinds of source tree that can be analysed, with the conventions of each: how its files
are named, which directories hold no sources, and which files are tests.
-/

namespace Strata

open Strata.Text

/-- A family of source files analysed in the same way. -/
inductive Ecosystem where
  /-- TypeScript and JavaScript. -/
  | typescript
  /-- Python. -/
  | python
  /-- Kotlin. -/
  | kotlin
  /-- Swift. -/
  | swift
deriving DecidableEq, Repr, Inhabited

namespace Ecosystem

/-- All ecosystems. -/
def all : List Ecosystem := [typescript, python, kotlin, swift]

/-- The name used in configuration files and in rule names. -/
def name : Ecosystem → String
  | typescript => "typescript"
  | python => "python"
  | kotlin => "kotlin"
  | swift => "swift"

/-- The ecosystem with exactly this name. -/
def ofName? (text : String) : Option Ecosystem :=
  all.find? fun ecosystem => ecosystem.name == text

/-- Other spellings accepted from a user. -/
def aliases : Ecosystem → List String
  | typescript => ["ts", "javascript", "js"]
  | python => ["py"]
  | kotlin => ["kt"]
  | swift => []

/-- Reads an ecosystem as a user writes it: a name or an alias in any ASCII case. -/
def parse? (text : String) : Option Ecosystem :=
  let word := asciiLower text
  all.find? fun ecosystem => ecosystem.name == word || ecosystem.aliases.contains word

/-- What is said about a text that names no ecosystem. -/
def unknownMessage (text : String) : String :=
  "unknown ecosystem '" ++ asciiLower text ++ "'"

/-- The name under which anti-patterns of this ecosystem are reported. -/
def antiPatternRule (ecosystem : Ecosystem) : String :=
  ecosystem.name ++ "-architecture-anti-pattern"

/-- The endings of source file names. -/
def extensions : Ecosystem → List String
  | typescript => [".ts", ".tsx", ".js", ".jsx", ".mjs", ".cjs"]
  | python => [".py"]
  | kotlin => [".kt", ".kts"]
  | swift => [".swift"]

/-- Whether a file of this name is a source file. -/
def handles (ecosystem : Ecosystem) (fileName : String) : Bool :=
  ecosystem.extensions.any fun ending => hasEnd ending fileName

/-- Directories without sources in every ecosystem. -/
def commonPruned : List String := [".git", ".hg", ".svn", ".idea", ".vscode"]

/-- Directories of dependencies and build results that are never entered. -/
def prunedDirs : Ecosystem → List String
  | typescript => ["node_modules", "dist", "build", "coverage", ".next", "out"]
  | python =>
    ["__pycache__", ".venv", ".tox", ".mypy_cache", ".pytest_cache", "build", "dist",
      "site-packages"]
  | kotlin => ["build", ".gradle", "out", "generated"]
  | swift => [".build", "Pods", "Carthage", "DerivedData", ".swiftpm"]

/-- Whether a directory is left out because of its name. -/
def prunesName (ecosystem : Ecosystem) (dirName : String) : Bool :=
  commonPruned.contains dirName || ecosystem.prunedDirs.contains dirName ||
    (ecosystem == python && hasEnd ".egg-info" dirName)

/-- The file whose presence marks a directory as a virtual environment, where there is such a
convention. -/
def environmentMarker : Ecosystem → Option String
  | python => some "pyvenv.cfg"
  | _ => none

/-- Whether the file at this path, relative to the analysed root, is a test by its name. -/
def isTestFile (ecosystem : Ecosystem) (path : String) : Bool :=
  let file := Path.fileNameOf path
  match ecosystem with
  | typescript =>
    occursIn ".test." file || occursIn ".spec." file || (partsAt '/' path).contains "__tests__"
  | python =>
    file == "conftest.py" || (hasStart "test_" file && hasEnd ".py" file) ||
      hasEnd "_test.py" file
  | kotlin => hasEnd "Test.kt" file || hasEnd "Tests.kt" file || hasEnd "Test.kts" file
  | swift => hasEnd "Test.swift" file || hasEnd "Tests.swift" file

end Ecosystem

end Strata

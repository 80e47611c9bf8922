import Strata.Masking.Mask
import Strata.Outline
import Strata.Pattern

/-!
# Python sources

Imports and top-level names of a Python file, found line by line in its masked text.  A statement
that stands in brackets or continues after a backslash is put together first, and statements
separated by semicolons are read one by one.
-/

namespace Strata.Language.Python

open Strata.Text Strata.Masking

/-- `from`, dots, a module and a list of names; captures dots, module and list. -/
def fromImport : Pattern :=
  .chain [.atStart, .blanks, .text "from", .blanks1,
    .capture 1 (.many (.one (.lit '.'))), .blanks,
    .capture 2 (.many (.one (.word ['.']))), .blanks1,
    .text "import", .blanks1, .capture 3 (.some1 (.one .any)), .atEnd]

/-- `import` and a list of names, which is captured. -/
def plainImport : Pattern :=
  .chain [.atStart, .blanks, .text "import", .blanks1, .capture 1 (.some1 (.one .any)), .atEnd]

/-- A name of its own, captured as number 1. -/
def identifier : Pattern :=
  .capture 1 (.seq (.one .letter) (.many (.one (.word []))))

/-- A function or class that starts in the first column; captures its name. -/
def definition : Pattern :=
  .chain [.atStart,
    .choice [.chain [.text "async", .blanks1, .text "def"], .text "def", .text "class"],
    .blanks1, identifier]

/-- An assignment that starts in the first column; captures the assigned name. -/
def assignment : Pattern :=
  .chain [.atStart, identifier, .blanks,
    .optional (.seq (.one (.lit ':')) (.many (.one (.noneOf ['='])))),
    .one (.lit '='), .alt (.one (.noneOf ['='])) .atEnd]

/-- The bracket depth after one more character. -/
def bracketStep (depth : Nat) (c : Char) : Nat :=
  if c == '(' || c == '[' || c == '\x7b' then depth + 1
  else if c == ')' || c == ']' || c == '\x7d' then depth - 1
  else depth

/-- The bracket depth after a line. -/
def bracketDepth (depth : Nat) (line : List Char) : Nat :=
  line.foldl bracketStep depth

/-- Whether a statement begins like an import. -/
def startsImport (statement : List Char) : Bool :=
  let text := trimStart statement
  startsWith ['i', 'm', 'p', 'o', 'r', 't', ' '] text || startsWith ['f', 'r', 'o', 'm', ' '] text

/-- Whether one of the statements on a line begins like an import. -/
def holdsImport (line : List Char) : Bool :=
  (pieces (· == ';') line).any startsImport

/-- What a line adds to a statement: the line without blanks and without backslashes at its end. -/
def linePart (line : List Char) : List Char :=
  trim (dropEndWhile (· == '\\') (trim line))

/-- Whether the statement goes on after a line that ends at this bracket depth. -/
def goesOn (depth : Nat) (line : List Char) : Bool :=
  0 < depth || (trim line).getLast? == some '\\'

/-- Appends a part to a statement with a space between them. -/
def extend (statement part : List Char) : List Char :=
  if statement.isEmpty || part.isEmpty then statement ++ part else statement ++ ' ' :: part

/-- Puts together the statement that begins with the first of some lines; gives it together with
the number of lines that it takes.  Before that line the statement reads `sofar`, and `depth`
brackets are open. -/
def gather (sofar : List Char) (depth : Nat) : List (List Char) → List Char × Nat
  | [] => (sofar, 0)
  | line :: rest =>
    let statement := extend sofar (linePart line)
    let depth := bracketDepth depth (trim line)
    if goesOn depth line then
      let tail := gather statement depth rest
      (tail.1, tail.2 + 1)
    else (statement, 1)

/-- A statement on one line: round brackets dropped, blanks collapsed. -/
def flatten (statement : List Char) : List Char :=
  collapse (statement.map fun c => if c == '(' || c == ')' then ' ' else c)

/-- The names of an import list, without their aliases. -/
def importedNames (list : List Char) : List String :=
  (pieces (· == ',') list).filterMap fun item => (words item).head?.map String.ofList

/-- What one name of a `from` import refers to. -/
def fromTarget (level : Nat) (module name : String) : Option Target :=
  if 0 < level then
    if name = "*" then some (.relative level module true)
    else some (.relative level (Name.join module name) false)
  else if module = "" then none
  else if name = "*" then some (.wildcard module)
  else some (.name (Name.join module name))

/-- What a statement imports. -/
def statementTargets (statement : List Char) : List Target :=
  match fromImport.match? statement with
  | some found =>
    (importedNames (found.captured 3)).filterMap
      (fromTarget (found.captured 1).length (String.ofList (found.captured 2)))
  | none =>
    match plainImport.match? statement with
    | some found => (importedNames (found.captured 1)).map Target.name
    | none => []

/-- The imports of one statement that begins on a line. -/
def statementImports (line : Nat) (statement : List Char) : List Import :=
  (statementTargets statement).map fun target =>
    { line, statement := String.ofList statement, target }

/-- The statements of a line that may hold several. -/
def statements (joined : List Char) : List (List Char) :=
  ((pieces (· == ';') joined).map trim).filter fun statement => !statement.isEmpty

/-- The imports of masked lines, the first of which has the number `line`. -/
def imports (line : Nat) : List (List Char) → List Import
  | [] => []
  | first :: rest =>
    if holdsImport first then
      let found := gather [] 0 (first :: rest)
      (statements (flatten found.1)).flatMap (statementImports line) ++
        imports (line + (found.2 - 1) + 1) (rest.drop (found.2 - 1))
    else imports (line + 1) rest
termination_by lines => lines.length
decreasing_by all_goals simp only [List.length_drop, List.length_cons]; omega

/-- The name that a line at bracket depth zero makes public. -/
def exportedName? (line : List Char) : Option String :=
  let found := (definition.match? line).orElse fun _ => assignment.match? line
  match found with
  | some found =>
    let name := found.captured 1
    if name.head? == some '_' then none else some (String.ofList name)
  | none => none

/-- The public names of masked lines, the first of which has the number `line` and starts at a
bracket depth. -/
def exportsFrom (line depth : Nat) : List (List Char) → List Export
  | [] => []
  | first :: rest =>
    let here := if depth = 0 then exportedName? first else none
    (here.map fun name => { name, line : Export }).toList ++
      exportsFrom (line + 1) (bracketDepth depth first) rest

/-- The module name and the package of a file, from its path below the analysed root.  A leading
`src` is no part of them, and the file `__init__.py` stands for its package. -/
def moduleNames (path : String) : String × String :=
  let parts := (partsAt '/' ((beforeEnd? ".py" path).getD path)).filter fun part => part != ""
  let parts := if 1 < parts.length && parts.head? == some "src" then parts.drop 1 else parts
  if parts.getLast? = some "__init__" then
    let module := joinWith "." parts.dropLast
    (module, module)
  else (joinWith "." parts, joinWith "." parts.dropLast)

/-- A name unless it is empty. -/
def nonEmpty (name : String) : Option String :=
  if name = "" then none else some name

/-- The outline of a Python file. -/
def outline (path : String) (content : List Char) : Outline :=
  let lines := mask .python content
  let names := moduleNames path
  { package := nonEmpty names.2
    qualifiedName := nonEmpty names.1
    exportNamespace := nonEmpty names.1
    imports := imports 1 lines
    exports := distinctExports (exportsFrom 1 0 lines) }

end Strata.Language.Python

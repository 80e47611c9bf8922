import Strata.Masking.Mask
import Strata.Outline
import Strata.Path
import Strata.Pattern

/-!
# Kotlin sources

Package, imports and top-level declarations of a Kotlin file, found line by line in its masked
text.  A line counts as top level if no brace is open where it starts.
-/

namespace Strata.Language.Kotlin

open Strata.Text Strata.Masking

/-- The package line; captures the name. -/
def packageLine : Pattern :=
  .chain [.atStart, .blanks, .text "package", .blanks1, .capture 1 (.some1 (.one (.word ['.'])))]

/-- An import line; captures the name and, apart from it, a final `.*`. -/
def importLine : Pattern :=
  .chain [.atStart, .blanks, .text "import", .blanks1,
    .capture 1 (.seq (.one (.word ['.'])) (.star true (.one (.word ['.'])))),
    .optional (.capture 2 (.text ".*")),
    .optional (.chain [.blanks1, .text "as", .blanks1, .some1 (.one (.word []))]),
    .blanks, .optional (.one (.lit ';')), .blanks, .atEnd]

/-- Annotations in front of a declaration. -/
def annotations : Pattern :=
  .many (.chain [.one (.lit '@'), .some1 (.one (.word ['.'])),
    .optional (.chain [.one (.lit '('), .many (.one (.noneOf [')'])), .one (.lit ')')]),
    .blanks1])

/-- The words that may stand before the keyword of a declaration. -/
def modifiers : List String :=
  ["public", "private", "internal", "protected", "open", "abstract", "sealed", "data", "enum",
    "annotation", "inline", "value", "inner", "const", "lateinit", "override", "suspend",
    "operator", "infix", "tailrec", "external", "expect", "actual", "final", "fun"]

/-- Type arguments in angle brackets, nested once. -/
def typeArguments : Pattern :=
  .chain [.one (.lit '<'),
    .many (.alt (.one (.noneOf ['<', '>']))
      (.chain [.one (.lit '<'), .many (.one (.noneOf ['<', '>'])), .one (.lit '>')])),
    .one (.lit '>')]

/-- A declaration; captures its modifiers and its name.  The receiver type of an extension is
passed over. -/
def declaration : Pattern :=
  .chain [.atStart, .blanks, annotations,
    .capture 1 (.many (.seq (.texts modifiers) .blanks1)),
    .texts ["class", "interface", "object", "fun", "val", "var", "typealias"], .blanks1,
    .optional (.seq typeArguments .blanks),
    .optional (.chain [.some1 (.one (.word ['.'])), .optional typeArguments,
      .optional (.one (.lit '?')), .one (.lit '.')]),
    .capture 2 (.some1 (.one (.word [])))]

/-- The package named by a line. -/
def packageOf? (line : List Char) : Option String :=
  (packageLine.match? line).map fun found => String.ofList (found.captured 1)

/-- The import on a line. -/
def importOf? (number : Nat) (line : List Char) : Option Import :=
  (importLine.match? line).map fun found =>
    let name := String.ofList (found.captured 1)
    { line := number
      statement := String.ofList (trim line)
      target := if (found.captured? 2).isSome then .wildcard name else .name name }

/-- The name that a top-level line declares for others. -/
def exportOf? (line : List Char) : Option String :=
  match declaration.match? line with
  | some found =>
    if (words (found.captured 1)).contains ['p', 'r', 'i', 'v', 'a', 't', 'e'] then none
    else some (String.ofList (found.captured 2))
  | none => none

/-- The names declared at the top level of masked lines. -/
def exportsOf (lines : List (List Char)) : List Export :=
  (numberFrom 1 (lines.zip (braceDepths lines))).filterMap fun (number, line, depth) =>
    if depth = 0 then (exportOf? line).map fun name => { name, line := number } else none

/-- The outline of a Kotlin file. -/
def outline (path : String) (content : List Char) : Outline :=
  let lines := mask .kotlin content
  let package := lines.findSome? packageOf?
  { package
    qualifiedName := some (Name.join (package.getD "") (Path.stem path))
    exportNamespace := package
    imports := (numberFrom 1 lines).filterMap fun (number, line) => importOf? number line
    exports := distinctExports (exportsOf lines) }

end Strata.Language.Kotlin

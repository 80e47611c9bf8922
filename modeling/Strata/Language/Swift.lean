import Strata.Masking.Mask
import Strata.Outline
import Strata.Path
import Strata.Pattern

/-!
# Swift sources

Imports and top-level declarations of a Swift file, found line by line in its masked text, and the
lines inside views that do work a view should not do.

The bodies of views are followed by a small machine over the characters of the lines: a view header
waits until the brace that opens its body, and the body lasts until that brace is closed.
-/

namespace Strata.Language.Swift

open Strata.Text Strata.Masking

/-- Attributes in front of a declaration. -/
def attributes : Pattern :=
  .many (.chain [.one (.lit '@'), .some1 (.one (.word [])),
    .optional (.chain [.one (.lit '('), .many (.one (.noneOf [')'])), .one (.lit ')')]),
    .blanks1])

/-- An import line; captures the name. -/
def importLine : Pattern :=
  .chain [.atStart, .blanks, attributes, .text "import", .blanks1,
    .optional (.seq
      (.texts ["typealias", "struct", "class", "enum", "protocol", "let", "var", "func"])
      .blanks1),
    .capture 1 (.some1 (.one (.word ['.'])))]

/-- The words that may stand before the keyword of a declaration. -/
def modifiers : List String :=
  ["public", "open", "internal", "private", "fileprivate", "final", "indirect", "static",
    "nonisolated", "override", "convenience", "required", "mutating", "dynamic", "lazy"]

/-- A declaration; captures its modifiers and its name. -/
def declaration : Pattern :=
  .chain [.atStart, .blanks, attributes,
    .capture 1 (.many (.seq (.texts modifiers) .blanks1)),
    .optional (.chain [.texts ["public", "open", "internal", "private", "fileprivate"],
      .text "(set)", .blanks1]),
    .texts ["class", "struct", "enum", "protocol", "actor", "func", "typealias", "let", "var"],
    .blanks1,
    .capture 2 (.seq (.one .letter) (.many (.one (.word []))))]

/-- The header of a type with its conformances; captures the name and the conformances. -/
def typeHeader : Pattern :=
  .chain [.atStart, .blanks, attributes,
    .many (.seq (.texts ["public", "internal", "private", "fileprivate", "final"]) .blanks1),
    .texts ["struct", "class"], .blanks1,
    .capture 1 (.some1 (.one (.word []))), .blanks,
    .optional (.chain [.one (.lit '<'), .many (.one (.noneOf ['\x7b', ':'])), .one (.lit '>')]),
    .blanks, .one (.lit ':'), .blanks,
    .capture 2 (.many (.one (.noneOf ['\x7b'])))]

/-- A word that stands alone. -/
def wholeWord (word : String) : Pattern :=
  .chain [.wordEdge, .text word, .wordEdge]

/-- A call to the network. -/
def networking : Pattern :=
  .alt (wholeWord "URLSession") (.text ".dataTask(")

/-- A use of the JSON decoder. -/
def jsonDecoding : Pattern := wholeWord "JSONDecoder"

/-- The reduction of a sequence. -/
def reduction : Pattern := .text ".reduce("

/-- An arithmetic operator between operands, or passed as an argument. -/
def arithmetic : Pattern :=
  let operator : Pattern := .one (.oneOf ['-', '+', '*', '/'])
  .alt
    (.chain [.one (.word [')', ']', '$']), .blanks, operator, .blanks,
      .one (.word ['(', '$', '.', '['])])
    (.chain [.one (.lit ','), .blanks, operator, .blanks, .one (.lit ')')])

/-- The import on a line. -/
def importOf? (number : Nat) (line : List Char) : Option Import :=
  (importLine.match? line).map fun found =>
    { line := number
      statement := String.ofList (trim line)
      target := .name (String.ofList (found.captured 1)) }

/-- The name that a top-level line declares for others. -/
def exportOf? (line : List Char) : Option String :=
  match declaration.match? line with
  | some found =>
    let hidden := (words (found.captured 1)).any fun word =>
      String.ofList word == "private" || String.ofList word == "fileprivate"
    if hidden then none else some (String.ofList (found.captured 2))
  | none => none

/-- The names declared at the top level of masked lines. -/
def exportsOf (lines : List (List Char)) : List Export :=
  (numberFrom 1 (lines.zip (braceDepths lines))).filterMap fun (number, line, depth) =>
    if depth = 0 then (exportOf? line).map fun name => { name, line := number } else none

/-- The name of the view whose header a line holds. -/
def viewHeader? (line : List Char) : Option String :=
  match typeHeader.match? line with
  | some found =>
    if (wholeWord "View").occurs (found.captured 2) then
      some (String.ofList (found.captured 1))
    else none
  | none => none

/-- Where the search for views is. -/
structure ViewState where
  /-- How many braces are open. -/
  depth : Nat := 0
  /-- A view whose body has not been opened yet, and the depth at which its header stands. -/
  pending : Option (String × Nat) := none
  /-- The depth outside the view body that is open. -/
  active : Option Nat := none
  /-- The name of the view whose body was opened last. -/
  scope : String := ""
  /-- Whether a view body was open somewhere on the current line. -/
  touched : Bool := false
deriving DecidableEq, Repr

namespace ViewState

/-- What the start of a line does: a view header is noted unless a view is open or waited for. -/
def enterLine (s : ViewState) (line : List Char) : ViewState :=
  let pending :=
    if s.active.isNone && s.pending.isNone then
      (viewHeader? line).map fun name => (name, s.depth)
    else s.pending
  { s with pending, touched := s.active.isSome }

/-- What an opening brace does: at the depth of a waiting header it opens the body. -/
def openBrace (s : ViewState) : ViewState :=
  match s.pending with
  | some (name, outer) =>
    if s.depth = outer then
      { depth := s.depth + 1, pending := none, active := some outer, scope := name,
        touched := true }
    else { s with depth := s.depth + 1 }
  | none => { s with depth := s.depth + 1 }

/-- What a closing brace does: back at the depth outside the body it closes the body. -/
def closeBrace (s : ViewState) : ViewState :=
  let depth := s.depth - 1
  { s with depth, active := if s.active = some depth then none else s.active }

/-- What a character does. -/
def step (s : ViewState) (c : Char) : ViewState :=
  if c == '\x7b' then s.openBrace else if c == '\x7d' then s.closeBrace else s

/-- The state after a line. -/
def scanLine (s : ViewState) (line : List Char) : ViewState :=
  line.foldl step (s.enterLine line)

end ViewState

/-- How many lines after a reduction are searched for its operator. -/
def lookahead : Nat := 3

/-- What is suspicious about a line, given the lines after it. -/
def lineKinds (line : List Char) (following : List (List Char)) : List SignalKind :=
  let reduces :=
    match reduction.search? line with
    | some found =>
      arithmetic.occurs found.rest || (following.take lookahead).any fun l => arithmetic.occurs l
    | none => false
  (if networking.occurs line then [SignalKind.networking] else []) ++
    (if jsonDecoding.occurs line then [SignalKind.jsonDecoding] else []) ++
    (if reduces then [SignalKind.aggregationArithmetic] else [])

/-- The suspicious lines inside views.  Each masked line comes with its source line, the first one
has the number `number`, and the search starts in the state `s`. -/
def signalsFrom (number : Nat) (s : ViewState) : List (List Char × List Char) → List Signal
  | [] => []
  | (line, source) :: rest =>
    let after := s.scanLine line
    let here :=
      if after.touched then
        (lineKinds line (rest.map Prod.fst)).map fun kind =>
          { kind, line := number, scope := after.scope, text := String.ofList (trim source) }
      else []
    here ++ signalsFrom (number + 1) after rest

/-- The module of a file: the directory below `Sources`, or else the directory that holds the
file. -/
def packageOf (path : String) : Option String :=
  let parts := partsAt '/' path
  let below := (parts.dropWhile (· != "Sources")).drop 1
  if 2 ≤ below.length then below.head?
  else parts.dropLast.getLast?

/-- The outline of a Swift file. -/
def outline (path : String) (content : List Char) : Outline :=
  let source := lines content
  let masked := mask .swift content
  let package := packageOf path
  { package
    qualifiedName := some (Name.join (package.getD "") (Path.stem path))
    exportNamespace := package
    imports := (numberFrom 1 masked).filterMap fun (number, line) => importOf? number line
    exports := distinctExports (exportsOf masked)
    signals := signalsFrom 1 {} (masked.zip source) }

end Strata.Language.Swift

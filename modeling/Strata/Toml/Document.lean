import Strata.Toml.Quoted

/-!
# TOML documents

Reads keys, values and headers, and puts them together to the top table of a document.  Every
reader takes the text from where it stands and gives the rest after what it has read.
-/

namespace Strata.Toml

/-- How deep values may be nested, and how many parts a key may have. -/
def depthLimit : Nat := 80

/-- The text after spaces and tabs. -/
def skipBlanks (cs : List Char) : List Char :=
  cs.dropWhile fun c => c == ' ' || c == '\t'

/-- What follows a comment up to the end of its line; nothing is skipped where none starts. -/
def skipComment : List Char → List Char
  | '#' :: rest => rest.dropWhile isPlain
  | cs => cs

/-- What follows the end of a line; a document may end without one. -/
def lineEnd? : List Char → Option (List Char)
  | [] => some []
  | '\n' :: rest => some rest
  | '\r' :: '\n' :: rest => some rest
  | _ => none

/-- What follows blanks, a comment and the end of the line. -/
def finishLine? (cs : List Char) : Option (List Char) :=
  lineEnd? (skipComment (skipBlanks cs))

/-- The text after blanks, comments and line ends, inside brackets. -/
def skipFiller : (inComment : Bool) → List Char → List Char
  | true, '\n' :: rest => skipFiller false rest
  | true, '\r' :: '\n' :: rest => skipFiller false rest
  | true, c :: rest => if isPlain c then skipFiller true rest else c :: rest
  | false, ' ' :: rest => skipFiller false rest
  | false, '\t' :: rest => skipFiller false rest
  | false, '\n' :: rest => skipFiller false rest
  | false, '\r' :: '\n' :: rest => skipFiller false rest
  | false, '#' :: rest => skipFiller true rest
  | _, cs => cs

/-- Whether a character may stand in a key without quotes. -/
def inBareKey (c : Char) : Bool :=
  c.isAlphanum || c == '-' || c == '_'

/-- Reads one part of a key. -/
def readKeyPart? (cs : List Char) : Option (String × List Char) :=
  match cs.takeWhile inBareKey with
  | [] => (readLineText? cs).map fun (text, rest) => (String.ofList text, rest)
  | bare => some (String.ofList bare, cs.dropWhile inBareKey)

/-- Reads the parts of a key, with blanks around them and dots between them. -/
def readKeyParts? : (bound : Nat) → List Char → Option (List String × List Char)
  | 0, _ => none
  | bound + 1, cs => do
    let (part, rest) ← readKeyPart? (skipBlanks cs)
    match skipBlanks rest with
    | '.' :: rest =>
      let (parts, rest) ← readKeyParts? bound rest
      return (part :: parts, rest)
    | rest => return ([part], rest)

/-- Reads a key: the parts before the last one, and the last one. -/
def readKey? (cs : List Char) : Option ((List String × String) × List Char) := do
  let (parts, rest) ← readKeyParts? (depthLimit - 1) cs
  let key ← parts.getLast?
  return ((parts.dropLast, key), rest)

/-- Reads an assignment whose value is read by `value?`. -/
def readAssignment? (value? : List Char → Option (Value × List Char)) (cs : List Char) :
    Option (Assignment × List Char) := do
  let ((path, key), rest) ← readKey? cs
  match rest with
  | '=' :: rest =>
    let (value, rest) ← value? (skipBlanks rest)
    return (⟨path, key, value⟩, rest)
  | _ => none

/-- Reads the items of a list after its opening bracket, and the closing one. -/
def readItems? (value? : List Char → Option (Value × List Char)) :
    (bound : Nat) → List Char → Option (List Value × List Char)
  | 0, _ => none
  | bound + 1, cs =>
    match skipFiller false cs with
    | ']' :: rest => some ([], rest)
    | cs => do
      let (value, rest) ← value? cs
      match skipFiller false rest with
      | ',' :: rest =>
        let (values, rest) ← readItems? value? bound rest
        return (value :: values, rest)
      | ']' :: rest => return ([value], rest)
      | _ => none

/-- Reads the assignments in braces after the opening brace, and the closing one. -/
def readBraces? (value? : List Char → Option (Value × List Char)) :
    (bound : Nat) → List Char → Option (List Assignment × List Char)
  | 0, _ => none
  | bound + 1, cs => do
    let (assignment, rest) ← readAssignment? value? cs
    match skipBlanks rest with
    | ',' :: rest =>
      let (assignments, rest) ← readBraces? value? bound rest
      return (assignment :: assignments, rest)
    | '\x7d' :: rest => return ([assignment], rest)
    | _ => none

/-- Reads a value in which lists and tables may be nested `depth` deep. -/
def readValue? : (depth : Nat) → List Char → Option (Value × List Char)
  | 0, '[' :: _ => none
  | 0, '\x7b' :: _ => none
  | depth + 1, '[' :: rest =>
    (readItems? (readValue? depth) (rest.length + 1) rest).map fun (items, rest) =>
      (.array items, rest)
  | depth + 1, '\x7b' :: rest =>
    match skipBlanks rest with
    | '\x7d' :: rest => some (.table .braces [], rest)
    | cs => do
      let (assignments, rest) ← readBraces? (readValue? depth) (cs.length + 1) cs
      let table ← Value.ofBraces? assignments
      return (table, rest)
  | _, cs =>
    match cs with
    | '"' :: _ => (readText? cs).map fun (text, rest) => (.string (String.ofList text), rest)
    | '\x27' :: _ => (readText? cs).map fun (text, rest) => (.string (String.ofList text), rest)
    | _ => readScalar? cs

/-- Reads a header after its first bracket. -/
def readHeader? (cs : List Char) : Option (Header × List Char) :=
  match cs with
  | '[' :: rest => do
    let ((path, key), rest) ← readKey? rest
    match rest with
    | ']' :: ']' :: rest => return (⟨true, path, key⟩, ← finishLine? rest)
    | _ => none
  | _ => do
    let ((path, key), rest) ← readKey? cs
    match rest with
    | ']' :: rest => return (⟨false, path, key⟩, ← finishLine? rest)
    | _ => none

/-- Adds an assignment to the first of some stretches; the others follow it in the document. -/
def consAssignment (a : Assignment) : List Section → List Section
  | [] => [⟨none, [a]⟩]
  | part :: later => { part with assignments := a :: part.assignments } :: later

/-- Gives the first stretch its header and opens a new one without header before it. -/
def consHeader (header : Header) : List Section → List Section
  | [] => [⟨none, []⟩, ⟨some header, []⟩]
  | part :: later => ⟨none, []⟩ :: { part with header := some header } :: later

/-- Reads a document line by line, from the last stretch to the first: the first one has no
header. -/
def readSections? : (bound : Nat) → List Char → Option (List Section)
  | 0, _ => none
  | bound + 1, cs =>
    match skipBlanks cs with
    | [] => some [⟨none, []⟩]
    | '\n' :: rest => readSections? bound rest
    | '\r' :: '\n' :: rest => readSections? bound rest
    | '#' :: rest => (lineEnd? (rest.dropWhile isPlain)).bind (readSections? bound)
    | '[' :: rest => do
      let (header, rest) ← readHeader? rest
      return consHeader header (← readSections? bound rest)
    | cs => do
      let (assignment, rest) ← readAssignment? (readValue? (depthLimit - 1)) cs
      let rest ← finishLine? rest
      return consAssignment assignment (← readSections? bound rest)

/-- A text without the mark that may stand at its start to tell its encoding. -/
def dropMark : List Char → List Char
  | '\ufeff' :: rest => rest
  | cs => cs

/-- The top table of a document, if the text is one. -/
def read? (text : String) : Option Entries :=
  let cs := dropMark text.toList
  (readSections? (cs.length + 1) cs).bind ofSections?

end Strata.Toml

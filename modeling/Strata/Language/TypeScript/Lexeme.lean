import Strata.Grammar
import Strata.Text.Lines

/-!
# Lexemes of TypeScript

The smallest parts of a TypeScript source, taken one at a time where the grammar asks for them.
Whether a slash starts a regular expression or a `<` an element is the grammar's decision, so there
is no list of tokens for the whole text.

Functions on plain text give the number of characters that a lexeme takes.
-/

namespace Strata.Language.TypeScript

open Strata.Text

/-- What the grammar can ask for.  All but the parts of templates and elements may have blanks and
comments before them. -/
inductive Lexeme where
  /-- A word, written exactly so. -/
  | word (text : String)
  /-- These characters. -/
  | sign (text : String)
  /-- A name that is not reserved. -/
  | identifier
  /-- Any name, reserved words included. -/
  | anyName
  /-- A name after a hash sign. -/
  | privateName
  /-- A literal in single or double quotes. -/
  | string
  /-- A number. -/
  | number
  /-- A regular expression with its flags. -/
  | regex
  /-- Characters of a template up to the next substitution or its end. -/
  | templateText
  /-- The start of a substitution, directly after the text of a template. -/
  | substitution
  /-- The back quote directly after the text of a template. -/
  | templateEnd
  /-- An operator between two operands. -/
  | binaryOperator
  /-- An operator that assigns. -/
  | assignOperator
  /-- The name of an element or attribute; hyphens are part of it. -/
  | elementName
  /-- Text inside an element. -/
  | elementText
  /-- A quoted attribute value. -/
  | attributeText
  /-- Nothing, if the next lexeme is on the same line. -/
  | sameLine
  /-- Nothing, if the next lexeme is on another line. -/
  | lineBreak
  /-- Nothing, at the end of the text. -/
  | finish
  /-- The byte order mark and the interpreter line at the start of a file. -/
  | preamble
deriving DecidableEq, Repr

/-- Blanks between lexemes: the usual control characters, space separators, line and paragraph
separators, and the invisible characters that carry no meaning. -/
def isSpace (c : Char) : Bool :=
  let n := c.toNat
  (0x09 ≤ n && n ≤ 0x0D) || n == 0x20 || n == 0xA0 || n == 0x1680 || (0x2000 ≤ n && n ≤ 0x200B) ||
    n == 0x2028 || n == 0x2029 || n == 0x202F || n == 0x205F || n == 0x2060 || n == 0x3000 ||
    n == 0xFEFF

/-- Whether a character ends a line. -/
def isLineEnd (c : Char) : Bool :=
  c == '\n' || c.toNat == 0x2028 || c.toNat == 0x2029

/-- Whether a block comment that has been opened is closed in the text. -/
def closesComment : List Char → Bool
  | '*' :: '/' :: _ => true
  | _ :: rest => closesComment rest
  | [] => false

/-- What is being passed over between lexemes. -/
inductive Gap where
  /-- Blanks. -/
  | blanks
  /-- A comment to the end of the line. -/
  | line
  /-- A block comment. -/
  | block
deriving DecidableEq

/-- Passes over blanks and comments; also tells whether a line ended on the way. -/
def skipGap (gap : Gap) (offset row : Nat) (broke : Bool) (text : List Char) : Cursor × Bool :=
  match gap, text with
  | _, [] => (⟨[], offset, row⟩, broke)
  | .blanks, '/' :: '/' :: rest => skipGap .line (offset + 2) row broke rest
  | .blanks, '/' :: '*' :: rest =>
    if closesComment rest then skipGap .block (offset + 2) row broke rest
    else (⟨'/' :: '*' :: rest, offset, row⟩, broke)
  | .block, '*' :: '/' :: rest => skipGap .blanks (offset + 2) row broke rest
  | .blanks, c :: rest =>
    if isSpace c then
      skipGap .blanks (offset + 1) (if c == '\n' then row + 1 else row) (broke || isLineEnd c) rest
    else (⟨c :: rest, offset, row⟩, broke)
  | .line, c :: rest =>
    if isLineEnd c then
      skipGap .blanks (offset + 1) (if c == '\n' then row + 1 else row) true rest
    else skipGap .line (offset + 1) row broke rest
  | .block, c :: rest =>
    skipGap .block (offset + 1) (if c == '\n' then row + 1 else row) (broke || isLineEnd c) rest

/-- The place of the next lexeme. -/
def skip (c : Cursor) : Cursor :=
  (skipGap .blanks c.offset c.row false c.rest).1

/-- Whether the next lexeme is on another line. -/
def breaksLine (c : Cursor) : Bool :=
  (skipGap .blanks c.offset c.row false c.rest).2

/-- Whether a character can be part of a name. -/
def isNamePart (c : Char) : Bool :=
  if c.toNat < 0x80 then c.isAlphanum || c == '_' || c == '$' || c.toNat == 0x7F
  else !isSpace c

/-- Whether a character is a hexadecimal digit. -/
def isHex (c : Char) : Bool :=
  c.isDigit || ('a' ≤ c && c ≤ 'f') || ('A' ≤ c && c ≤ 'F')

/-- The length of a code point in braces at the start of a text, if it is well formed. -/
def bracedLength (text : List Char) : Option Nat :=
  match text with
  | '\x7b' :: rest =>
    let digits := rest.takeWhile isHex
    if digits.isEmpty then none
    else if (rest.drop digits.length).head? == some '\x7d' then some (digits.length + 2)
    else none
  | _ => none

/-- The length of what follows `\u`: four digits, or digits in braces. -/
def unicodeLength (text : List Char) : Option Nat :=
  match bracedLength text with
  | some n => some n
  | none => if (text.take 4).all isHex && (text.take 4).length == 4 then some 4 else none

/-- The length of the name at the start of a text, at most `bound` parts of it. -/
def nameLengthFrom : (bound : Nat) → List Char → Nat
  | 0, _ => 0
  | bound + 1, text =>
    match text with
    | '\\' :: 'u' :: rest =>
      match unicodeLength rest with
      | some n => n + 2 + nameLengthFrom bound (rest.drop n)
      | none => 0
    | c :: rest => if isNamePart c then 1 + nameLengthFrom bound rest else 0
    | [] => 0

/-- The length of the name at the start of a text. -/
def nameLength (text : List Char) : Option Nat :=
  match text with
  | [] => none
  | c :: _ =>
    if c.isDigit then none
    else
      let plain := (text.takeWhile isNamePart).length
      -- Escapes are rare: count the plain characters first and go on only at a backslash.
      let n :=
        if (text.drop plain).head? == some '\\' then nameLengthFrom text.length text else plain
      if n = 0 then none else some n

/-- The words that cannot be used as names in an expression. -/
def reserved : List String :=
  ["break", "case", "catch", "class", "const", "continue", "debugger", "default", "delete", "do",
    "else", "enum", "export", "extends", "finally", "for", "function", "if", "import", "in",
    "instanceof", "new", "return", "super", "switch", "this", "throw", "try", "typeof", "var",
    "void", "while", "with"]

/-- The length of an escape after its backslash. -/
def escapeLength (text : List Char) : Option Nat :=
  match text with
  | [] => none
  | 'x' :: rest =>
    if (rest.take 2).all isHex && (rest.take 2).length == 2 then some 3 else none
  | 'u' :: rest => (unicodeLength rest).map (· + 1)
  | '\r' :: '\n' :: _ => some 2
  | _ => some 1

/-- The length of a literal after its opening quote, its closing quote included, if `passed`
characters have been passed; `bound` limits the number of steps. -/
def stringLength (quote : Char) : (bound passed : Nat) → List Char → Option Nat
  | 0, _, _ => none
  | bound + 1, passed, text =>
    match text with
    | [] => none
    | c :: rest =>
      if c == quote then some (passed + 1)
      else if c == '\n' || c == '\r' then none
      else if c == '\\' then
        match escapeLength rest with
        | some n => stringLength quote bound (passed + n + 1) (rest.drop n)
        | none => none
      else stringLength quote bound (passed + 1) rest

/-- A number of steps that is enough for a literal in a text. -/
def stepBound (text : List Char) : Nat :=
  text.length + 1

/-- The length of the quoted literal at the start of a text. -/
def quotedLength (text : List Char) : Option Nat :=
  match text with
  | c :: rest =>
    if c == '"' || c == '\'' then
      (stringLength c (stepBound rest) 0 rest).map (· + 1)
    else none
  | [] => none

/-- The length of a run of digits that may have single underscores between them. -/
def digitsLength (isDigit : Char → Bool) : List Char → Nat
  | '_' :: c :: rest => if isDigit c then 2 + digitsLength isDigit rest else 0
  | c :: rest => if isDigit c then 1 + digitsLength isDigit rest else 0
  | [] => 0

/-- The length of digits that start with a digit. -/
def digitsStart (isDigit : Char → Bool) (text : List Char) : Nat :=
  if text.head?.any isDigit then digitsLength isDigit text else 0

/-- The length of an exponent at the start of a text, or zero. -/
def exponentLength (text : List Char) : Nat :=
  match text with
  | e :: rest =>
    if e == 'e' || e == 'E' then
      let sign := if rest.head? == some '+' || rest.head? == some '-' then 1 else 0
      let digits := digitsStart Char.isDigit (rest.drop sign)
      if digits = 0 then 0 else 1 + sign + digits
    else 0
  | [] => 0

/-- The length of a number in another base after its two leading characters. -/
def basedLength (isDigit : Char → Bool) (rest : List Char) : Option Nat :=
  let digits := digitsStart isDigit rest
  if digits = 0 then none
  else some (2 + digits + (if (rest.drop digits).head? == some 'n' then 1 else 0))

/-- The length of a decimal number at the start of a text. -/
def decimalLength (text : List Char) : Option Nat :=
  let whole := digitsStart Char.isDigit text
  match text.drop whole with
  | '.' :: rest =>
    let fraction := digitsStart Char.isDigit rest
    if whole = 0 && fraction = 0 then none
    else some (whole + 1 + fraction + exponentLength (rest.drop fraction))
  | 'n' :: _ => if whole = 0 then none else some (whole + 1)
  | rest => if whole = 0 then none else some (whole + exponentLength rest)

/-- The length of the number at the start of a text. -/
def numberLength (text : List Char) : Option Nat :=
  match text with
  | '0' :: b :: rest =>
    if b == 'x' || b == 'X' then basedLength isHex rest
    else if b == 'o' || b == 'O' then basedLength (fun c => '0' ≤ c && c ≤ '7') rest
    else if b == 'b' || b == 'B' then basedLength (fun c => c == '0' || c == '1') rest
    else decimalLength text
  | _ => decimalLength text

/-- The length of the body of a regular expression and its closing slash; `inClass` inside square
brackets, `passed` characters have been passed. -/
def regexBody (inClass : Bool) (passed : Nat) : List Char → Option Nat
  | [] => none
  | '\\' :: c :: rest => if isLineEnd c then none else regexBody inClass (passed + 2) rest
  | c :: rest =>
    if isLineEnd c then none
    else if c == '/' && !inClass then some (passed + 1)
    else if c == '[' then regexBody true (passed + 1) rest
    else if c == ']' then regexBody false (passed + 1) rest
    else regexBody inClass (passed + 1) rest

/-- The length of the regular expression at the start of a text. -/
def regexLength (text : List Char) : Option Nat :=
  match text with
  | '/' :: c :: rest =>
    if c == '*' || c == '/' then none
    else
      (regexBody false 0 (c :: rest)).map fun n =>
        1 + n + (((c :: rest).drop n).takeWhile fun c => c.isAlpha).length
  | _ => none

/-- The length of the characters of a template before the next substitution or its end; `passed`
characters have been passed, and `bound` limits the number of steps. -/
def templateLength : (bound passed : Nat) → List Char → Option Nat
  | 0, _, _ => none
  | bound + 1, passed, text =>
    match text with
    | [] => none
    | '\x60' :: _ => some passed
    | '$' :: '\x7b' :: _ => some passed
    | '\\' :: rest =>
      match escapeLength rest with
      | some n => templateLength bound (passed + n + 1) (rest.drop n)
      | none => none
    | _ :: rest => templateLength bound (passed + 1) rest

/-- Operators between operands, longer ones before their beginnings.  Those of the second list are
other operators if an equals sign follows. -/
def comparisons : List String := ["===", "!==", "==", "!=", "<=", ">="]

/-- Operators between operands that become assignments with an equals sign. -/
def operators : List String :=
  [">>>", "<<", ">>", "&&", "||", "??", "**", "<", ">", "+", "-", "*", "/", "%", "&", "|", "^"]

/-- The operators that assign. -/
def assignments : List String :=
  [">>>=", "<<=", ">>=", "&&=", "||=", "??=", "**=", "+=", "-=", "*=", "/=", "%=", "&=", "|=",
    "^="]

/-- The length of the word at the start of a text, if it is exactly `word`. -/
def wordLength (word : String) (text : List Char) : Option Nat :=
  if startsWith word.toList text then
    let n := word.length
    match (text.drop n).head? with
    | some c => if isNamePart c || c == '\\' then none else some n
    | none => some n
  else none

/-- The length of the operator between operands at the start of a text. -/
def binaryLength (text : List Char) : Option Nat :=
  match comparisons.find? fun op => startsWith op.toList text with
  | some op => some op.length
  | none =>
    match operators.find? fun op => startsWith op.toList text with
    | some op => if (text.drop op.length).head? == some '=' then none else some op.length
    | none =>
      match wordLength "instanceof" text with
      | some n => some n
      | none => wordLength "in" text

/-- The length of the assigning operator at the start of a text. -/
def assignLength (text : List Char) : Option Nat :=
  match assignments.find? fun op => startsWith op.toList text with
  | some op => some op.length
  | none =>
    match text with
    | '=' :: '=' :: _ => none
    | '=' :: '>' :: _ => none
    | '=' :: _ => some 1
    | _ => none

/-- The length of a character reference after its ampersand. -/
def referenceLength (text : List Char) : Option Nat :=
  let body :=
    match text with
    | '#' :: x :: rest =>
      if x == 'x' || x == 'X' then (rest.takeWhile isHex).length + 2
      else ((x :: rest).takeWhile Char.isDigit).length + 1
    | _ => (text.takeWhile Char.isAlpha).length
  if 0 < body && (text.drop body).head? == some ';' then some (body + 1) else none

/-- The length of the text of an element at the start of a text. -/
def elementTextLength (text : List Char) : Option Nat :=
  match text with
  | '&' :: rest => (referenceLength rest).map (· + 1)
  | _ =>
    let n := (text.takeWhile fun c =>
      c != '<' && c != '>' && c != '\x7b' && c != '\x7d' && c != '&').length
    if n = 0 then none else some n

/-- The length of a quoted attribute value at the start of a text. -/
def attributeLength (text : List Char) : Option Nat :=
  match text with
  | q :: rest =>
    if q == '"' || q == '\'' then
      let n := (rest.takeWhile (· != q)).length
      if (rest.drop n).isEmpty then none else some (n + 2)
    else none
  | [] => none

/-- The length of the name of an element or attribute at the start of a text. -/
def elementNameLength (text : List Char) : Option Nat :=
  (nameLength text).map fun _ => (text.takeWhile fun c => isNamePart c || c == '-').length

/-- The length of the byte order mark and the interpreter line at the start of a file. -/
def preambleLength (text : List Char) : Nat :=
  let mark := if text.head?.any (·.toNat == 0xFEFF) then 1 else 0
  let rest := text.drop mark
  if startsWith ['#', '!'] rest then mark + (rest.takeWhile (· != '\n')).length else mark

/-- Takes the lexeme of a given length at a place. -/
def taking (c : Cursor) (length : Option Nat) : Option Cursor :=
  length.map fun n => c.advance n

/-- Takes a lexeme. -/
def scan (t : Lexeme) (c : Cursor) : Option Cursor :=
  match t with
  | .templateText => taking c ((templateLength (c.rest.length + 1) 0 c.rest).filter (0 < ·))
  | .substitution => if startsWith ['$', '\x7b'] c.rest then some (c.advance 2) else none
  | .templateEnd => if c.rest.head? == some '\x60' then some (c.advance 1) else none
  | .elementText => taking c (elementTextLength c.rest)
  | .sameLine => if breaksLine c then none else some c
  | .lineBreak => if breaksLine c then some c else none
  | .preamble => some (c.advance (preambleLength c.rest))
  | t =>
    let c := skip c
    match t with
    | .word text => taking c (wordLength text c.rest)
    | .sign text => if startsWith text.toList c.rest then some (c.advance text.length) else none
    | .identifier =>
      match nameLength c.rest with
      | some n =>
        if reserved.contains (String.ofList (c.rest.take n)) then none else some (c.advance n)
      | none => none
    | .anyName => taking c (nameLength c.rest)
    | .privateName =>
      match c.rest with
      | '#' :: rest => taking c ((nameLength rest).map (· + 1))
      | _ => none
    | .string => taking c (quotedLength c.rest)
    | .number => taking c (numberLength c.rest)
    | .regex => taking c (regexLength c.rest)
    | .binaryOperator => taking c (binaryLength c.rest)
    | .assignOperator => taking c (assignLength c.rest)
    | .elementName => taking c (elementNameLength c.rest)
    | .attributeText => taking c (attributeLength c.rest)
    | .finish => if c.rest.isEmpty then some c else none
    | _ => none

end Strata.Language.TypeScript

import Strata.Masking.Dialect
import Strata.Text.Lines

/-!
# Masked source text

Masking a source text puts a space in the place of every character of a comment and of the inside
of a literal, and keeps everything else, quotation marks included.  Lines keep their number and
their length, so what is found in the masked text is found at the same place in the source.

The scanner is a machine that is in code, in a comment or in a literal.  A `Move` is one of its
steps: it takes at least one character and writes as many as it takes.
-/

namespace Strata.Masking

open Strata.Text

/-- Where the scanner is. -/
inductive Mode where
  /-- In code. -/
  | code
  /-- In a block comment that lies inside `outer` others. -/
  | comment (outer : Nat)
  /-- In a literal; `escaped` if the character before was a backslash that escapes the next. -/
  | literal (lit : Literal) (escaped : Bool)
deriving DecidableEq, Repr

namespace Mode

/-- Whether the scanner is in a block comment. -/
def inComment : Mode → Bool
  | comment _ => true
  | _ => false

/-- Whether the scanner is in a literal. -/
def inLiteral : Mode → Bool
  | literal _ _ => true
  | _ => false

/-- How a line end changes the mode: a literal on one line ends there, and nothing stays
escaped. -/
def endLine : Mode → Mode
  | literal lit _ => if lit.quote.spansLines then literal lit false else code
  | mode => mode

/-- The mode after the end of a block comment. -/
def leaveComment : (outer : Nat) → Mode
  | 0 => code
  | outer + 1 => comment outer

end Mode

/-- One step of the scanner. -/
structure Move where
  /-- The mode after the step. -/
  mode : Mode
  /-- What is written. -/
  out : List Char
  /-- How many characters are taken besides the first. -/
  more : Nat

/-- A run of spaces. -/
def spaces (n : Nat) : List Char := List.replicate n ' '

/-- The number of hash signs at the start of a text. -/
def hashCount (text : List Char) : Nat :=
  (text.takeWhile (· == '#')).length

/-- A step inside a block comment. -/
def commentMove (d : Dialect) (outer : Nat) (text : List Char) : Move :=
  if d.nestedComments && startsWith ['/', '*'] text then ⟨.comment (outer + 1), spaces 2, 1⟩
  else if startsWith ['*', '/'] text then ⟨.leaveComment outer, spaces 2, 1⟩
  else ⟨.comment outer, spaces 1, 0⟩

/-- Whether the literal ends here: at its quotation mark, with all its hash signs. -/
def closes (lit : Literal) (text : List Char) : Bool :=
  match after? lit.quote.delimiter text with
  | none => false
  | some rest => lit.hashes ≤ hashCount rest

/-- A step inside a literal. -/
def literalMove (lit : Literal) (escaped : Bool) (text : List Char) : Move :=
  if escaped then ⟨.literal lit false, spaces 1, 0⟩
  else if !lit.raw && text.head? == some '\\' then ⟨.literal lit true, spaces 1, 0⟩
  else if closes lit text then
    ⟨.code, lit.quote.delimiter ++ spaces lit.hashes,
      lit.quote.delimiter.length + lit.hashes - 1⟩
  else ⟨.literal lit false, spaces 1, 0⟩

/-- The quotation mark that a literal opens with at the start of a text. -/
def quoteAt? (d : Dialect) (text : List Char) : Option Quote :=
  if startsWith Quote.tripleDouble.delimiter text then some .tripleDouble
  else if d.tripleSingleQuotes && startsWith Quote.tripleSingle.delimiter text then
    some .tripleSingle
  else if text.head? == some '"' then some .double
  else if d.singleQuotes && text.head? == some '\'' then some .single
  else none

/-- The literal that opens at the start of a text.  Hash signs fence it only if a double quote
follows them. -/
def literalAt? (d : Dialect) (text : List Char) : Option Literal :=
  let hashes := if d.hashFences then hashCount text else 0
  let body := text.drop hashes
  if 0 < hashes && body.head? != some '"' then none
  else
    (quoteAt? d body).map fun quote =>
      { quote, raw := 0 < hashes || (d.rawTripleQuotes && quote == .tripleDouble), hashes }

/-- A step in code. -/
def codeMove (d : Dialect) (c : Char) (rest : List Char) : Move :=
  let text := c :: rest
  if startsWith d.lineComment text then ⟨.code, spaces text.length, rest.length⟩
  else if d.blockComments && startsWith ['/', '*'] text then ⟨.comment 0, spaces 2, 1⟩
  else
    match literalAt? d text with
    | some lit =>
      ⟨.literal lit false, spaces lit.hashes ++ lit.quote.delimiter,
        lit.hashes + lit.quote.delimiter.length - 1⟩
    | none => ⟨.code, [c], 0⟩

/-- The step of the scanner in a mode at the character `c`. -/
def move (d : Dialect) (mode : Mode) (c : Char) (rest : List Char) : Move :=
  match mode with
  | .comment outer => commentMove d outer (c :: rest)
  | .literal lit escaped => literalMove lit escaped (c :: rest)
  | .code => codeMove d c rest

/-- Masks one line, and gives the mode in which the next line starts. -/
def maskLine (d : Dialect) (mode : Mode) : List Char → List Char × Mode
  | [] => ([], mode.endLine)
  | c :: rest =>
    let step := move d mode c rest
    let tail := maskLine d step.mode (rest.drop step.more)
    (step.out ++ tail.1, tail.2)
termination_by line => line.length
decreasing_by simp only [List.length_drop, List.length_cons]; omega

/-- Masks lines one after another, starting in a mode. -/
def maskLines (d : Dialect) : (mode : Mode) → List (List Char) → List (List Char)
  | _, [] => []
  | mode, line :: rest =>
    let masked := maskLine d mode line
    masked.1 :: maskLines d masked.2 rest

/-- The masked lines of a source text. -/
def mask (d : Dialect) (source : List Char) : List (List Char) :=
  maskLines d .code (lines source)

/-- The brace depth after one more character; a closing brace too many changes nothing. -/
def braceStep (depth : Nat) (c : Char) : Nat :=
  if c == '\x7b' then depth + 1 else if c == '\x7d' then depth - 1 else depth

/-- The brace depth at the start of each line, if the first one starts at `depth`. -/
def braceDepthsFrom : (depth : Nat) → List (List Char) → List Nat
  | _, [] => []
  | depth, line :: rest => depth :: braceDepthsFrom (line.foldl braceStep depth) rest

/-- The brace depth at the start of each line of a masked text. -/
def braceDepths (lines : List (List Char)) : List Nat :=
  braceDepthsFrom 0 lines

end Strata.Masking

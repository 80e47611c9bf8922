import Strata.Toml.Scalar

/-!
# Quoted texts of TOML

A basic text stands in double quotes and knows escapes; a literal one stands in single quotes and
knows none.  Either may be written with three quotes at both ends and then runs over several
lines; a line end directly after the opening quotes is dropped, and up to two quotes may stand
before the closing ones.
-/

namespace Strata.Toml

/-- Whether a character may stand in a text or a comment as it is. -/
def isPlain (c : Char) : Bool :=
  c == '\t' || (' ' ≤ c && c != '\x7f')

/-- The character with the code point written by some hexadecimal digits, if there is one. -/
def codePoint? (cs : List Char) : Option Char :=
  (digits? 16 cs).bind fun n =>
    if n < 0xD800 ∨ (0xDFFF < n ∧ n < 0x110000) then some (Char.ofNat n) else none

/-- The character that a letter after a backslash stands for. -/
def escaped? : Char → Option Char
  | 'b' => some '\x08'
  | 't' => some '\t'
  | 'n' => some '\n'
  | 'f' => some '\x0c'
  | 'r' => some '\r'
  | '"' => some '"'
  | '\\' => some '\\'
  | _ => none

/-- A text read so far together with what follows it, with one more character in front. -/
def consChar (c : Option Char) (read : Option (List Char × List Char)) :
    Option (List Char × List Char) :=
  match c, read with
  | some c, some (text, rest) => some (c :: text, rest)
  | _, _ => none

/-- The rest of a basic text after its opening quote. -/
def basicText : List Char → Option (List Char × List Char)
  | [] => none
  | '"' :: rest => some ([], rest)
  | '\\' :: 'u' :: a :: b :: c :: d :: rest => consChar (codePoint? [a, b, c, d]) (basicText rest)
  | '\\' :: 'U' :: a :: b :: c :: d :: e :: f :: g :: h :: rest =>
    consChar (codePoint? [a, b, c, d, e, f, g, h]) (basicText rest)
  | '\\' :: c :: rest => consChar (escaped? c) (basicText rest)
  | c :: rest => if isPlain c && c != '\\' then consChar (some c) (basicText rest) else none

/-- The rest of a literal text after its opening quote. -/
def literalText : List Char → Option (List Char × List Char)
  | [] => none
  | '\x27' :: rest => some ([], rest)
  | c :: rest => if isPlain c then consChar (some c) (literalText rest) else none

/-- Where the reader of a basic text of several lines stands. -/
inductive LineState where
  /-- In the text. -/
  | inText
  /-- After a backslash and blanks, where only a line end may follow. -/
  | joining
  /-- After a joined line end, where blanks and line ends are dropped. -/
  | skipping
deriving DecidableEq, Repr

/-- The rest of a basic text of several lines. -/
def basicLines : LineState → List Char → Option (List Char × List Char)
  | _, [] => none
  | .joining, ' ' :: rest => basicLines .joining rest
  | .joining, '\t' :: rest => basicLines .joining rest
  | .joining, '\n' :: rest => basicLines .skipping rest
  | .joining, '\r' :: '\n' :: rest => basicLines .skipping rest
  | .joining, _ :: _ => none
  | .skipping, ' ' :: rest => basicLines .skipping rest
  | .skipping, '\t' :: rest => basicLines .skipping rest
  | .skipping, '\n' :: rest => basicLines .skipping rest
  | .skipping, '\r' :: '\n' :: rest => basicLines .skipping rest
  | _, '"' :: '"' :: '"' :: '"' :: '"' :: rest => some (['"', '"'], rest)
  | _, '"' :: '"' :: '"' :: '"' :: rest => some (['"'], rest)
  | _, '"' :: '"' :: '"' :: rest => some ([], rest)
  | _, '\\' :: 'u' :: a :: b :: c :: d :: rest =>
    consChar (codePoint? [a, b, c, d]) (basicLines .inText rest)
  | _, '\\' :: 'U' :: a :: b :: c :: d :: e :: f :: g :: h :: rest =>
    consChar (codePoint? [a, b, c, d, e, f, g, h]) (basicLines .inText rest)
  | _, '\\' :: ' ' :: rest => basicLines .joining rest
  | _, '\\' :: '\t' :: rest => basicLines .joining rest
  | _, '\\' :: '\n' :: rest => basicLines .skipping rest
  | _, '\\' :: '\r' :: '\n' :: rest => basicLines .skipping rest
  | _, '\\' :: c :: rest => consChar (escaped? c) (basicLines .inText rest)
  | _, '\n' :: rest => consChar (some '\n') (basicLines .inText rest)
  | _, '\r' :: '\n' :: rest => consChar (some '\n') (basicLines .inText rest)
  | _, c :: rest =>
    if isPlain c && c != '\\' then consChar (some c) (basicLines .inText rest) else none

/-- The rest of a literal text of several lines. -/
def literalLines : List Char → Option (List Char × List Char)
  | [] => none
  | '\x27' :: '\x27' :: '\x27' :: '\x27' :: '\x27' :: rest => some (['\x27', '\x27'], rest)
  | '\x27' :: '\x27' :: '\x27' :: '\x27' :: rest => some (['\x27'], rest)
  | '\x27' :: '\x27' :: '\x27' :: rest => some ([], rest)
  | '\n' :: rest => consChar (some '\n') (literalLines rest)
  | '\r' :: '\n' :: rest => consChar (some '\n') (literalLines rest)
  | c :: rest => if isPlain c then consChar (some c) (literalLines rest) else none

/-- A text without the line end at its start. -/
def dropLineEnd : List Char → List Char
  | '\n' :: rest => rest
  | '\r' :: '\n' :: rest => rest
  | cs => cs

/-- Reads a text on one line. -/
def readLineText? : List Char → Option (List Char × List Char)
  | '"' :: rest => basicText rest
  | '\x27' :: rest => literalText rest
  | _ => none

/-- Reads a text. -/
def readText? : List Char → Option (List Char × List Char)
  | '"' :: '"' :: '"' :: rest => basicLines .inText (dropLineEnd rest)
  | '\x27' :: '\x27' :: '\x27' :: rest => literalLines (dropLineEnd rest)
  | cs => readLineText? cs

end Strata.Toml

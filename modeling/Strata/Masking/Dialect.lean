/-!
# Comment and quote conventions

What a scanner has to know about a language in order to tell its code from its comments and
literals.
-/

namespace Strata.Masking

/-- The comment and quote conventions of a language. -/
structure Dialect where
  /-- What starts a comment that runs to the end of the line. -/
  lineComment : List Char
  /-- Whether `/* */` is a comment. -/
  blockComments : Bool
  /-- Whether such comments nest. -/
  nestedComments : Bool
  /-- Whether `'...'` is a literal. -/
  singleQuotes : Bool
  /-- Whether a literal between three single quotes runs over lines. -/
  tripleSingleQuotes : Bool
  /-- Whether a backslash means nothing between three double quotes. -/
  rawTripleQuotes : Bool
  /-- Whether a literal may be fenced with hash signs and is then raw. -/
  hashFences : Bool
deriving DecidableEq, Repr

namespace Dialect

/-- Python: `#` comments, literals in single, double and either triple quotes. -/
def python : Dialect :=
  { lineComment := ['#'], blockComments := false, nestedComments := false, singleQuotes := true,
    tripleSingleQuotes := true, rawTripleQuotes := false, hashFences := false }

/-- Kotlin: nested block comments, character literals, raw triple-quoted literals. -/
def kotlin : Dialect :=
  { lineComment := ['/', '/'], blockComments := true, nestedComments := true, singleQuotes := true,
    tripleSingleQuotes := false, rawTripleQuotes := true, hashFences := false }

/-- Swift: nested block comments, triple-quoted literals, literals fenced with hash signs. -/
def swift : Dialect :=
  { lineComment := ['/', '/'], blockComments := true, nestedComments := true, singleQuotes := false,
    tripleSingleQuotes := false, rawTripleQuotes := false, hashFences := true }

end Dialect

/-- A kind of quotation mark around a literal. -/
inductive Quote where
  /-- One double quote. -/
  | double
  /-- One single quote. -/
  | single
  /-- Three double quotes. -/
  | tripleDouble
  /-- Three single quotes. -/
  | tripleSingle
deriving DecidableEq, Repr

namespace Quote

/-- How the quotation mark is written. -/
def delimiter : Quote → List Char
  | double => ['"']
  | single => ['\'']
  | tripleDouble => ['"', '"', '"']
  | tripleSingle => ['\'', '\'', '\'']

/-- Whether a literal in these quotes may run over several lines. -/
def spansLines : Quote → Bool
  | double | single => false
  | tripleDouble | tripleSingle => true

end Quote

/-- How the literal that the scanner is in was opened. -/
structure Literal where
  /-- Its quotation mark. -/
  quote : Quote
  /-- Whether a backslash means nothing in it. -/
  raw : Bool
  /-- How many hash signs follow the closing quote. -/
  hashes : Nat
deriving DecidableEq, Repr

end Strata.Masking

import Strata.Text.Lines
import Strata.Toml.Value

/-!
# Scalars of TOML

Numbers, dates and truth values, each read from a whole lexeme.
-/

namespace Strata.Toml

open Strata.Text

/-- The digit value of a character, up to base sixteen. -/
def digitValue? (c : Char) : Option Nat :=
  if '0' ≤ c ∧ c ≤ '9' then some (c.toNat - '0'.toNat)
  else if 'a' ≤ c ∧ c ≤ 'f' then some (c.toNat - 'a'.toNat + 10)
  else if 'A' ≤ c ∧ c ≤ 'F' then some (c.toNat - 'A'.toNat + 10)
  else none

/-- The value of some digits after a value already read. -/
def digitsFrom? (base : Nat) (value : Nat) : List Char → Option Nat
  | [] => some value
  | c :: rest =>
    match digitValue? c with
    | some d => if d < base then digitsFrom? base (value * base + d) rest else none
    | none => none

/-- The value of one or more digits. -/
def digits? (base : Nat) (cs : List Char) : Option Nat :=
  if cs.isEmpty then none else digitsFrom? base 0 cs

/-- Digits whose groups are divided by single underscores, without the underscores. -/
def ungrouped? (cs : List Char) : Option (List Char) :=
  let groups := pieces (· == '_') cs
  if groups.any List.isEmpty then none else some groups.flatten

/-- The value of digits that may be grouped. -/
def grouped? (base : Nat) (cs : List Char) : Option Nat :=
  (ungrouped? cs).bind (digits? base)

/-- Whether a number is minus, and the rest of its text. -/
def sign : List Char → Bool × List Char
  | '-' :: rest => (true, rest)
  | '+' :: rest => (false, rest)
  | cs => (false, cs)

/-- A whole number without its sign: no digit follows a leading zero. -/
def whole? : List Char → Option Nat
  | ['0'] => some 0
  | '0' :: _ => none
  | cs => grouped? 10 cs

/-- The number if it fits in sixty-four bits with sign. -/
def inRange? (n : Int) : Option Int :=
  if -9223372036854775808 ≤ n ∧ n ≤ 9223372036854775807 then some n else none

/-- A whole number, decimal with or without sign, or in base sixteen, eight or two. -/
def integer? : List Char → Option Int
  | '0' :: 'x' :: rest => (grouped? 16 rest).bind fun n => inRange? n
  | '0' :: 'o' :: rest => (grouped? 8 rest).bind fun n => inRange? n
  | '0' :: 'b' :: rest => (grouped? 2 rest).bind fun n => inRange? n
  | cs =>
    let (minus, rest) := sign cs
    (whole? rest).bind fun n => inRange? (if minus then -n else n)

/-- The smallest number that is too large to be rounded to a finite double. -/
def tooLarge : Nat := Nat.pow 2 1024 - Nat.pow 2 970

/-- Whether `mantissa` times ten to the power `scale` is too large for a double. -/
def overflows (mantissa : Nat) (scale : Int) : Bool :=
  let size : Int := (Nat.toDigits 10 mantissa).length + scale
  if mantissa = 0 then false
  else if size < 300 then false
  else if 320 < size then true
  else if 0 ≤ scale then tooLarge ≤ mantissa * Nat.pow 10 scale.toNat
  else tooLarge * Nat.pow 10 (-scale).toNat ≤ mantissa

/-- The exponent of a float: an `e`, a sign and digits; zero if it is missing. -/
def exponent? : List Char → Option Int
  | [] => some 0
  | _ :: cs =>
    let (minus, rest) := sign cs
    (grouped? 10 rest).map fun n => if minus then -(n : Int) else n

/-- The digits of a fraction: a point and digits; none if it is missing. -/
def fraction? : List Char → Option (List Char)
  | [] => some []
  | _ :: rest => (ungrouped? rest).bind fun cs => (digits? 10 cs).map fun _ => cs

/-- Whether a lexeme is a number with a fraction or an exponent that is not too large. -/
def isDecimal (cs : List Char) : Bool :=
  let (minus, rest) := sign cs
  let isMark (c : Char) : Bool := c == 'e' || c == 'E'
  let mantissa := rest.takeWhile fun c => !isMark c
  let power := rest.dropWhile fun c => !isMark c
  let before := mantissa.takeWhile (· != '.')
  let after := mantissa.dropWhile (· != '.')
  match whole? before, fraction? after, exponent? power with
  | some n, some decimals, some e =>
    (!after.isEmpty || !power.isEmpty) &&
      (minus || !overflows ((digitsFrom? 10 n decimals).getD 0) (e - decimals.length))
  | _, _, _ => false

/-- Whether a lexeme is infinity or stands for no number. -/
def isSpecial (cs : List Char) : Bool :=
  ["inf", "nan"].any fun word => (sign cs).2 == word.toList

/-- The number written by exactly two digits. -/
def two? (a b : Char) : Option Nat := digits? 10 [a, b]

/-- How many days a month has. -/
def daysIn (year month : Nat) : Nat :=
  if month = 2 then
    if year % 4 = 0 ∧ (year % 100 ≠ 0 ∨ year % 400 = 0) then 29 else 28
  else if [4, 6, 9, 11].contains month then 30
  else 31

/-- What follows a date at the start of a text. -/
def afterDate? : List Char → Option (List Char)
  | y₁ :: y₂ :: y₃ :: y₄ :: '-' :: m₁ :: m₂ :: '-' :: d₁ :: d₂ :: rest => do
    let year ← digits? 10 [y₁, y₂, y₃, y₄]
    let month ← two? m₁ m₂
    let day ← two? d₁ d₂
    if 1 ≤ month ∧ month ≤ 12 ∧ 1 ≤ day ∧ day ≤ daysIn year month then some rest else none
  | _ => none

/-- What follows the fraction of a second, if there is one. -/
def afterFraction? : List Char → Option (List Char)
  | '.' :: c :: rest => if c.isDigit then some (rest.dropWhile Char.isDigit) else none
  | '.' :: [] => none
  | cs => some cs

/-- What follows a time of day at the start of a text. -/
def afterTime? : List Char → Option (List Char)
  | h₁ :: h₂ :: ':' :: m₁ :: m₂ :: ':' :: s₁ :: s₂ :: rest => do
    let hour ← two? h₁ h₂
    let minute ← two? m₁ m₂
    let second ← two? s₁ s₂
    if hour ≤ 23 ∧ minute ≤ 59 ∧ second ≤ 60 then afterFraction? rest else none
  | _ => none

/-- Whether a text is empty or an offset from universal time. -/
def isOffset : List Char → Bool
  | [] => true
  | ['Z'] => true
  | ['z'] => true
  | [s, h₁, h₂, ':', m₁, m₂] =>
    (s == '+' || s == '-') && (two? h₁ h₂).any (· ≤ 23) && (two? m₁ m₂).any (· ≤ 59)
  | _ => false

/-- Whether a lexeme is a date, a time of day, or a date with a time of day. -/
def isDatetime (cs : List Char) : Bool :=
  match afterDate? cs with
  | some [] => true
  | some (t :: rest) => (t == 'T' || t == 't' || t == ' ') && (afterTime? rest).any isOffset
  | none => afterTime? cs == some []

/-- The scalar that a lexeme writes. -/
def scalar? (cs : List Char) : Option Value :=
  if cs = "true".toList then some (.boolean true)
  else if cs = "false".toList then some (.boolean false)
  else if isDatetime cs then some .datetime
  else if isDecimal cs || isSpecial cs then some .float
  else (integer? cs).map .integer

/-- Whether a character can stand in a number, a date or a truth value. -/
def inScalar (c : Char) : Bool :=
  c.isAlphanum || ['+', '-', '_', '.', ':'].contains c

/-- Reads a scalar.  A date and a time of day may be divided by a space. -/
def readScalar? (cs : List Char) : Option (Value × List Char) :=
  let lexeme := cs.takeWhile inScalar
  let rest := cs.dropWhile inScalar
  match afterDate? lexeme, rest with
  | some [], ' ' :: c :: _ =>
    if c.isDigit then
      let later := rest.drop 1
      (scalar? (lexeme ++ ' ' :: later.takeWhile inScalar)).map fun v =>
        (v, later.dropWhile inScalar)
    else (scalar? lexeme).map fun v => (v, rest)
  | _, _ => (scalar? lexeme).map fun v => (v, rest)

end Strata.Toml

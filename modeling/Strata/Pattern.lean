import Strata.Text.Word
import Strata.Text.Lines

/-!
# Text patterns

Regular patterns with captures, matched by trying alternatives in order.  A pattern is data, so it
can be written out (`Pattern.render`), run (`Pattern.runs`) and reasoned about.  `runs` lists every
way to match from a place in the text, the preferred way first: the left alternative before the
right one, and one more repetition before stopping unless the repetition is reluctant.  The match
that counts is the first of the list.
-/

namespace Strata

open Strata.Text

/-- A set of characters that a pattern can ask for. -/
inductive CharClass where
  /-- This character only. -/
  | lit (c : Char)
  /-- Every character but the line feed. -/
  | any
  /-- A blank. -/
  | blank
  /-- A word character, or one of those listed. -/
  | word (more : List Char)
  /-- An ASCII letter or the underscore. -/
  | letter
  /-- One of the characters listed. -/
  | oneOf (cs : List Char)
  /-- A character that is not listed. -/
  | noneOf (cs : List Char)
  /-- A character in one of some ranges, ends included. -/
  | within (ranges : List (Char × Char))
  /-- A character in none of some ranges. -/
  | outside (ranges : List (Char × Char))
deriving DecidableEq, Repr

namespace CharClass

/-- Whether a character lies in one of some ranges. -/
def inRanges (ranges : List (Char × Char)) (c : Char) : Bool :=
  ranges.any fun range => range.1 ≤ c && c ≤ range.2

/-- Whether a character belongs to the class. -/
def contains : CharClass → Char → Bool
  | lit a, c => a == c
  | any, c => c != '\n'
  | blank, c => isBlank c
  | word more, c => isWord c || more.contains c
  | letter, c => c.isAlpha || c == '_'
  | oneOf cs, c => cs.contains c
  | noneOf cs, c => !cs.contains c
  | within ranges, c => inRanges ranges c
  | outside ranges, c => !inRanges ranges c

/-- The characters that have a meaning of their own in a written pattern. -/
def special : List Char :=
  ['\\', '.', '+', '*', '?', '(', ')', '|', '[', ']', '\x7b', '\x7d', '^', '$', '#', '&', '-', '~']

/-- A character as it is written in a pattern, with a backslash if it has a meaning there. -/
def escape (c : Char) : String :=
  if special.contains c then String.ofList ['\\', c] else String.singleton c

/-- How a range is written. -/
def renderRange (range : Char × Char) : String :=
  escape range.1 ++ "-" ++ escape range.2

/-- How a class is written. -/
def render : CharClass → String
  | lit c => escape c
  | any => "."
  | blank => "\\s"
  | word [] => "\\w"
  | word more => "[\\w" ++ String.join (more.map escape) ++ "]"
  | letter => "[A-Za-z_]"
  | oneOf cs => "[" ++ String.join (cs.map escape) ++ "]"
  | noneOf cs => "[^" ++ String.join (cs.map escape) ++ "]"
  | within ranges => "[" ++ String.join (ranges.map renderRange) ++ "]"
  | outside ranges => "[^" ++ String.join (ranges.map renderRange) ++ "]"

end CharClass

/-- A regular pattern. -/
inductive Pattern where
  /-- Matches everywhere and takes nothing. -/
  | empty
  /-- Takes one character of a class. -/
  | one (k : CharClass)
  /-- One pattern after another. -/
  | seq (p q : Pattern)
  /-- Either pattern, the left one preferred. -/
  | alt (p q : Pattern)
  /-- Any number of repetitions: as many as possible, or, if `reluctant`, as few as possible. -/
  | star (reluctant : Bool) (p : Pattern)
  /-- Remembers under the number `n` what `p` takes. -/
  | capture (n : Nat) (p : Pattern)
  /-- Matches at the start of the text. -/
  | atStart
  /-- Matches at the end of the text. -/
  | atEnd
  /-- Matches where a word starts or ends. -/
  | wordEdge
deriving DecidableEq, Repr

namespace Pattern

/-- A place in a text together with what has been remembered on the way to it. -/
structure Spot where
  /-- The character just before the place. -/
  before : Option Char
  /-- The text from the place on. -/
  rest : List Char
  /-- How many characters have been taken. -/
  taken : Nat
  /-- For each capture its number, the text from its start on and its length, latest first. -/
  captures : List (Nat × List Char × Nat)

namespace Spot

/-- The place before the first character of a text. -/
def start (text : List Char) : Spot := ⟨none, text, 0, []⟩

/-- The text captured under a number, if that capture took part in the match. -/
def captured? (s : Spot) (n : Nat) : Option (List Char) :=
  (s.captures.find? fun entry => entry.1 == n).map fun entry => entry.2.1.take entry.2.2

/-- The captured text, or nothing. -/
def captured (s : Spot) (n : Nat) : List Char :=
  (s.captured? n).getD []

/-- Whether exactly one of the two neighbours of the place is a word character. -/
def onWordEdge (s : Spot) : Bool :=
  s.before.any isWord != s.rest.head?.any isWord

end Spot

/-- Repeats `body` at most `bound` times from `s`.  A repetition that takes nothing ends there. -/
def repetitions (body : Spot → List Spot) (reluctant : Bool) : (bound : Nat) → Spot → List Spot
  | 0, s => [s]
  | bound + 1, s =>
    let more := (body s).flatMap fun t =>
      if s.taken < t.taken then repetitions body reluctant bound t else []
    if reluctant then s :: more else more ++ [s]

/-- Every way to match a pattern from a place, the preferred one first; each way is given by the
place where it ends. -/
def runs : Pattern → Spot → List Spot
  | empty, s => [s]
  | one k, s =>
    match s.rest with
    | [] => []
    | c :: rest =>
      if k.contains c then [{ s with before := some c, rest := rest, taken := s.taken + 1 }] else []
  | seq p q, s => (runs p s).flatMap (runs q)
  | alt p q, s => runs p s ++ runs q s
  | star reluctant p, s => repetitions (runs p) reluctant s.rest.length s
  | capture n p, s =>
    (runs p s).map fun t =>
      { t with captures := (n, s.rest, t.taken - s.taken) :: t.captures }
  | atStart, s => if s.before.isNone then [s] else []
  | atEnd, s => if s.rest.isEmpty then [s] else []
  | wordEdge, s => if s.onWordEdge then [s] else []

/-- The preferred match from the start of a text. -/
def match? (p : Pattern) (text : List Char) : Option Spot :=
  (runs p (Spot.start text)).head?

/-- Whether a pattern matches from the start of a text. -/
def accepts (p : Pattern) (text : List Char) : Bool :=
  (p.match? text).isSome

/-- The places of a list, each once: of several ways to one place the first is kept. -/
def distinctPlaces (spots : List Spot) : List Spot :=
  spots.foldl (fun kept s => if kept.any fun t => t.taken == s.taken then kept else kept ++ [s]) []

/-- The places where a pattern can end if it starts at one of several places.  Only the places
matter here, so each is kept once, and a long sequence of repetitions stays cheap. -/
def reach : Pattern → List Spot → List Spot
  | seq p q, spots => reach q (reach p spots)
  | p, spots => distinctPlaces (spots.flatMap (runs p))

/-- Whether a pattern can be matched from the start of a text, decided place by place. -/
def canMatch (p : Pattern) (text : List Char) : Bool :=
  !(reach p [Spot.start text]).isEmpty

/-- The first match that starts at `before`, `rest` or later. -/
def searchFrom (p : Pattern) : (before : Option Char) → (rest : List Char) → Option Spot
  | before, [] => (runs p ⟨before, [], 0, []⟩).head?
  | before, c :: rest =>
    match (runs p ⟨before, c :: rest, 0, []⟩).head? with
    | some s => some s
    | none => searchFrom p (some c) rest

/-- The first match anywhere in a text. -/
def search? (p : Pattern) (text : List Char) : Option Spot :=
  searchFrom p none text

/-- Whether a pattern matches anywhere in a text. -/
def occurs (p : Pattern) (text : List Char) : Bool :=
  (p.search? text).isSome

/-- One pattern after another, for a list of them. -/
def chain : List Pattern → Pattern
  | [] => empty
  | [p] => p
  | p :: rest => seq p (chain rest)

/-- One of several patterns, earlier ones preferred. -/
def choice : List Pattern → Pattern
  | [] => empty
  | [p] => p
  | p :: rest => alt p (choice rest)

/-- The characters of a string, one after another. -/
def text (s : String) : Pattern :=
  chain (s.toList.map fun c => one (.lit c))

/-- One of several strings. -/
def texts (words : List String) : Pattern :=
  choice (words.map text)

/-- A pattern that may be left out. -/
def optional (p : Pattern) : Pattern := alt p empty

/-- Any number of repetitions, as many as possible. -/
def many (p : Pattern) : Pattern := star false p

/-- One or more repetitions, as many as possible. -/
def some1 (p : Pattern) : Pattern := seq p (many p)

/-- Any character, the line feed included. -/
def anyChar : Pattern := one (.noneOf [])

/-- Any number of blanks. -/
def blanks : Pattern := many (one .blank)

/-- One or more blanks. -/
def blanks1 : Pattern := some1 (one .blank)

/-- How a pattern is written. -/
def render : Pattern → String
  | empty => ""
  | one k => k.render
  | seq p q => p.render ++ q.render
  | alt p empty => "(?:" ++ p.render ++ ")?"
  | alt p q => "(?:" ++ p.render ++ "|" ++ q.render ++ ")"
  | star reluctant (one k) => k.render ++ (if reluctant then "*?" else "*")
  | star reluctant p => "(?:" ++ p.render ++ (if reluctant then ")*?" else ")*")
  | capture _ p => "(" ++ p.render ++ ")"
  | atStart => "^"
  | atEnd => "$"
  | wordEdge => "\\b"

end Pattern

end Strata

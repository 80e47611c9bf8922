/-!
# Parsing grammars

A grammar gives every rule a parsing expression.  Expressions are tried in order and the first
alternative that succeeds is kept, so a text has at most one parse.  Where an expression is marked,
the parse records a node with the text it covers; the result of a parse is the list of these nodes,
each with the nodes inside it.

Running a grammar is bounded by a number of steps.  Every loop takes text on each round and nesting
takes text as well, so a bound proportional to the length of the text is never reached.
-/

namespace Strata

/-- A place in a text that is being parsed. -/
structure Cursor where
  /-- The text from the place on. -/
  rest : List Char
  /-- How many characters lie before the place. -/
  offset : Nat
  /-- How many line feeds lie before the place. -/
  row : Nat
deriving Repr, Inhabited

namespace Cursor

/-- The place before a text. -/
def start (text : List Char) : Cursor := ⟨text, 0, 0⟩

/-- The place after the next character. -/
def next (c : Cursor) : Cursor :=
  match c.rest with
  | [] => c
  | a :: rest => ⟨rest, c.offset + 1, if a == '\n' then c.row + 1 else c.row⟩

/-- The place `n` characters further. -/
def advance : (n : Nat) → Cursor → Cursor
  | 0, c => c
  | n + 1, c => advance n c.next

end Cursor

/-- A marked part of a text. -/
inductive Node (κ : Type) where
  /-- A part of kind `kind` that starts at `start`, takes `length` characters and has the marked
  parts `inner` inside. -/
  | mk (kind : κ) (start : Cursor) (length : Nat) (inner : List (Node κ))

namespace Node

variable {κ : Type}

/-- What the part was marked as. -/
def kind : Node κ → κ
  | mk kind _ _ _ => kind

/-- The text of the part. -/
def text : Node κ → List Char
  | mk _ start length _ => start.rest.take length

/-- The line on which the part starts, counted from one. -/
def line : Node κ → Nat
  | mk _ start _ _ => start.row + 1

/-- The marked parts inside. -/
def inner : Node κ → List (Node κ)
  | mk _ _ _ inner => inner

end Node

/-- A parsing expression over lexemes `τ`, rules `ρ` and marks `κ`. -/
inductive Parsing (τ ρ κ : Type) where
  /-- Takes a lexeme. -/
  | lexeme (t : τ)
  /-- What a rule says. -/
  | rule (r : ρ)
  /-- All of these, one after another. -/
  | seq (es : List (Parsing τ ρ κ))
  /-- The first of these that succeeds. -/
  | alt (es : List (Parsing τ ρ κ))
  /-- As many repetitions as possible. -/
  | many (e : Parsing τ ρ κ)
  /-- Succeeds where `e` does, and takes nothing. -/
  | look (e : Parsing τ ρ κ)
  /-- Succeeds where `e` does not, and takes nothing. -/
  | avoid (e : Parsing τ ρ κ)
  /-- Takes what `e` takes and records it. -/
  | mark (k : κ) (e : Parsing τ ρ κ)

namespace Parsing

variable {τ ρ κ : Type}

/-- An expression that may be left out. -/
def opt (e : Parsing τ ρ κ) : Parsing τ ρ κ := .alt [e, .seq []]

end Parsing

/-- A grammar: how lexemes are taken, what may stand between them, and what the rules say. -/
structure Grammar (τ ρ κ : Type) where
  /-- Takes a lexeme, with what stands before it. -/
  scan : τ → Cursor → Option Cursor
  /-- Passes over what may stand between lexemes. -/
  skip : Cursor → Cursor
  /-- The expression of a rule. -/
  body : ρ → Parsing τ ρ κ

namespace Grammar

variable {τ ρ κ : Type}

/-- Runs an expression from a place, in at most `bound` nested steps. -/
def run (g : Grammar τ ρ κ) :
    (bound : Nat) → Parsing τ ρ κ → Cursor → Option (Cursor × List (Node κ))
  | 0, _, _ => none
  | _ + 1, .lexeme t, c => (g.scan t c).map fun d => (d, [])
  | bound + 1, .rule r, c => run g bound (g.body r) c
  | _ + 1, .seq [], c => some (c, [])
  | bound + 1, .seq (e :: es), c =>
    match run g bound e c with
    | none => none
    | some (d, nodes) => (run g bound (.seq es) d).map fun (last, more) => (last, nodes ++ more)
  | _ + 1, .alt [], _ => none
  | bound + 1, .alt (e :: es), c =>
    match run g bound e c with
    | none => run g bound (.alt es) c
    | some found => some found
  | bound + 1, .many e, c =>
    match run g bound e c with
    | none => some (c, [])
    | some (d, nodes) =>
      if c.offset < d.offset then
        (run g bound (.many e) d).map fun (last, more) => (last, nodes ++ more)
      else some (c, [])
  | bound + 1, .look e, c => (run g bound e c).map fun _ => (c, [])
  | bound + 1, .avoid e, c =>
    match run g bound e c with
    | none => some (c, [])
    | some _ => none
  | bound + 1, .mark k e, c =>
    let first := g.skip c
    (run g bound e first).map fun (last, nodes) =>
      (last, [.mk k first (last.offset - first.offset) nodes])

/-- The steps granted for a text. -/
def bound (text : List Char) : Nat := 512 * (text.length + 4)

/-- The nodes of a text that the rule `r` covers. -/
def parse? (g : Grammar τ ρ κ) (r : ρ) (text : List Char) : Option (List (Node κ)) :=
  (g.run (bound text) (.rule r) (Cursor.start text)).map Prod.snd

end Grammar

end Strata

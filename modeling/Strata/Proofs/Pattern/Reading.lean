import Strata.Proofs.Pattern.Takes

/-!
# Reading written patterns

A pattern is handed on as text (`Pattern.render`).  What such a text means is said here on its own:
a reader goes over it character by character and puts together the pattern that the text stands for
(`Pattern.read?`).  The reader knows characters, escaped characters, the dot, the two anchors, sets
of characters, groups and the signs `*` and `?` with their reluctant forms.  A character with a
meaning of its own is refused wherever it has none of these meanings.
-/

namespace Strata.Pattern

/-- Where a reader stands in a written pattern. -/
inductive Mode where
  /-- Where an item can start. -/
  | ready
  /-- Behind the sign of a repetition, where a `?` makes the repetition reluctant. -/
  | repeated
  /-- Behind a backslash. -/
  | escaped
  /-- Behind the `(` of a group. -/
  | opened
  /-- Behind the `(?` of a group. -/
  | marked
  /-- Behind the `[` of a set. -/
  | setStart
  /-- In a set, behind some members of it, the latest first. -/
  | set (negated : Bool) (members : List Char)
  /-- Behind a backslash in a set. -/
  | setEscaped (negated : Bool) (members : List Char)
deriving DecidableEq, Repr

/-- A reader on its way through a written pattern. -/
structure Reader where
  /-- Where the reader stands. -/
  mode : Mode
  /-- The items of the innermost open group, the latest first. -/
  items : List Pattern
  /-- The items before each open group, the innermost group first. -/
  outer : List (List Pattern)
deriving DecidableEq, Repr

namespace Reader

/-- One more item. -/
def push (r : Reader) (p : Pattern) : Reader := ⟨.ready, p :: r.items, r.outer⟩

/-- The latest item changed; there has to be one. -/
def onLast? (r : Reader) (mode : Mode) (f : Pattern → Pattern) : Option Reader :=
  match r.items with
  | [] => none
  | p :: items => some ⟨mode, f p :: items, r.outer⟩

/-- The innermost group as one item of the group around it. -/
def close? (r : Reader) : Option Reader :=
  match r.outer with
  | [] => none
  | items :: outer => some ⟨.ready, chain r.items.reverse :: items, outer⟩

/-- A repetition with the other preference. -/
def reluctant : Pattern → Pattern
  | star false p => star true p
  | alt p empty => alt empty p
  | p => p

/-- The reader behind a character that stands where an item can start. -/
def item? (r : Reader) (c : Char) : Option Reader :=
  match c with
  | '\\' => some { r with mode := .escaped }
  | '[' => some { r with mode := .setStart }
  | '(' => some { r with mode := .opened }
  | ')' => r.close?
  | '.' => some (r.push (.one .any))
  | '^' => some (r.push .atStart)
  | '$' => some (r.push .atEnd)
  | '*' => r.onLast? .repeated (.star false)
  | '?' => r.onLast? .repeated (.alt · .empty)
  | c => if CharClass.special.contains c then none else some (r.push (.one (.lit c)))

/-- The reader behind a character of a set. -/
def member? (r : Reader) (negated : Bool) (members : List Char) (c : Char) : Option Reader :=
  match c with
  | ']' =>
    if members.isEmpty then none
    else if negated then some (r.push (.one (.noneOf members.reverse)))
    else some (r.push (.one (.oneOf members.reverse)))
  | '\\' => some { r with mode := .setEscaped negated members }
  | c =>
    if CharClass.special.contains c then none
    else some { r with mode := .set negated (c :: members) }

/-- The reader behind one more character. -/
def step (r : Reader) (c : Char) : Option Reader :=
  match r.mode with
  | .ready => r.item? c
  | .repeated => if c == '?' then r.onLast? .ready reluctant else r.item? c
  | .escaped => if CharClass.special.contains c then some (r.push (.one (.lit c))) else none
  | .opened => if c == '?' then some { r with mode := .marked } else none
  | .marked => if c == ':' then some ⟨.ready, [], r.items :: r.outer⟩ else none
  | .setStart => if c == '^' then some { r with mode := .set true [] } else r.member? false [] c
  | .set negated members => r.member? negated members c
  | .setEscaped negated members =>
    if CharClass.special.contains c then some { r with mode := .set negated (c :: members) }
    else none

/-- Whether the reader stands behind a whole item. -/
def settled (r : Reader) : Bool := r.mode == .ready || r.mode == .repeated

end Reader

/-- The pattern that a text stands for, if it is a written pattern. -/
def read? (text : List Char) : Option Pattern :=
  match text.foldlM Reader.step ⟨.ready, [], []⟩ with
  | some r => if r.settled && r.outer.isEmpty then some (chain r.items.reverse) else none
  | none => none

namespace Reader

variable {r : Reader} {c : Char}

/-- Behind a whole item, every character but `?` starts another item or closes a group. -/
lemma step_of_settled (hr : r.settled = true) (hc : c ≠ '?') : r.step c = r.item? c := by
  have hmode : r.mode = .ready ∨ r.mode = .repeated := by simpa [settled] using hr
  rcases hmode with hmode | hmode
  · simp [step, hmode]
  · simp [step, hmode, hc]

/-- A character of no meaning of its own starts an item and is one. -/
lemma item?_of_not_special (hc : CharClass.special.contains c = false) :
    r.item? c = some (r.push (.one (.lit c))) := by
  unfold item?
  split
  -- the characters with a case of their own have a meaning
  case h_10 => simp only [hc, Bool.false_eq_true, if_false]
  all_goals cases hc

/-- An escaped character is read as the character. -/
lemma foldlM_escape (hr : r.settled = true) (c : Char) :
    (CharClass.escape c).toList.foldlM step r = some (r.push (.one (.lit c))) := by
  unfold CharClass.escape
  cases hc : CharClass.special.contains c with
  | true =>
    have hslash : r.step '\\' = some { r with mode := .escaped } := step_of_settled hr (by decide)
    have hchar : step { r with mode := .escaped } c = some (r.push (.one (.lit c))) := by
      simp only [step, hc, if_true]
      rfl
    simp [hslash, hchar]
  | false =>
    have hmark : c ≠ '?' := by
      rintro rfl
      cases hc
    have hchar : r.step c = some (r.push (.one (.lit c))) := by
      rw [step_of_settled hr hmark, item?_of_not_special hc]
    simp [hchar]

end Reader

lemma toList_render_chain (ps : List Pattern) :
    (chain ps).render.toList = ps.flatMap fun p => p.render.toList := by
  induction ps with
  | nil => rfl
  | cons p ps ih =>
    cases ps with
    | nil => simp [chain]
    | cons q qs =>
      rw [chain_cons p (List.cons_ne_nil q qs), render, String.toList_append, ih]
      rfl

end Strata.Pattern

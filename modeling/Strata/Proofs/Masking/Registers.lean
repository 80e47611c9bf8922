import Mathlib.Data.Nat.PSub
import Strata.Proofs.Masking.WholeText

/-!
# The scanner with registers

A `Mode` cannot be in a comment and in a literal at once, and it counts comments from zero up.  A
scanner need not be built this way: it can keep the number of open comments, the open literal and a
pending escape in three registers that nothing ties together, look at them in this order at each
step, and count down at the end of a comment, which fails at zero.  Started afresh, such a scanner
goes through the same steps as the one with modes (`step?_registers`): it never fails, and its
registers always hold what a mode says.  So behind every line they are settled: not both a comment
and a literal are open, a literal that is open stands between three quotes, and no escape is pending
(`maskLine_settled`).
-/

namespace Strata.Masking

open Strata.Text

/-! ### Registers -/

/-- What the scanner knows of the text before it, in three places. -/
structure Registers where
  /-- How many block comments are open. -/
  depth : ℕ
  /-- The literal that is open. -/
  opened : Option Literal
  /-- Whether the next character of the literal is escaped. -/
  escape : Bool
deriving DecidableEq, Repr

namespace Registers

/-- The registers at the start of a source. -/
def fresh : Registers := ⟨0, none, false⟩

/-- A step inside a block comment: the registers after it, what is written, and how many characters
are taken besides the first.  It fails where a comment ends and none is counted. -/
def commentStep? (d : Dialect) (r : Registers) (text : List Char) :
    Option (Registers × List Char × ℕ) :=
  if d.nestedComments && startsWith ['/', '*'] text then
    some ({ r with depth := r.depth + 1 }, spaces 2, 1)
  else if startsWith ['*', '/'] text then
    r.depth.ppred.map fun depth => ({ r with depth }, spaces 2, 1)
  else some (r, spaces 1, 0)

/-- A step inside a literal. -/
def literalStep (r : Registers) (lit : Literal) (text : List Char) : Registers × List Char × ℕ :=
  if r.escape then ({ r with escape := false }, spaces 1, 0)
  else if !lit.raw && text.head? == some '\\' then ({ r with escape := true }, spaces 1, 0)
  else if closes lit text then
    ({ r with opened := none }, lit.quote.delimiter ++ spaces lit.hashes,
      lit.quote.delimiter.length + lit.hashes - 1)
  else (r, spaces 1, 0)

/-- A step in code. -/
def codeStep (d : Dialect) (r : Registers) (c : Char) (rest : List Char) :
    Registers × List Char × ℕ :=
  if startsWith d.lineComment (c :: rest) then (r, spaces (rest.length + 1), rest.length)
  else if d.blockComments && startsWith ['/', '*'] (c :: rest) then
    ({ r with depth := 1 }, spaces 2, 1)
  else
    match literalAt? d (c :: rest) with
    | some lit =>
      ({ r with opened := some lit }, spaces lit.hashes ++ lit.quote.delimiter,
        lit.hashes + lit.quote.delimiter.length - 1)
    | none => (r, [c], 0)

/-- A step at the character `c`: an open comment counts before an open literal. -/
def step? (d : Dialect) (r : Registers) (c : Char) (rest : List Char) :
    Option (Registers × List Char × ℕ) :=
  if 0 < r.depth then commentStep? d r (c :: rest)
  else
    match r.opened with
    | some lit => some (literalStep r lit (c :: rest))
    | none => some (codeStep d r c rest)

/-- The registers behind a line end: a literal on one line is given up, and so is an escape. -/
def endLine (r : Registers) : Registers :=
  { r with opened := r.opened.filter fun lit => lit.quote.spansLines, escape := false }

/-- Masks one line, and gives the registers behind it. -/
def line? (d : Dialect) (r : Registers) : List Char → Option (List Char × Registers)
  | [] => some ([], r.endLine)
  | c :: rest =>
    (step? d r c rest).bind fun step =>
      (line? d step.1 (rest.drop step.2.2)).map fun tail => (step.2.1 ++ tail.1, tail.2)
termination_by line => line.length
decreasing_by simp only [List.length_drop, List.length_cons]; omega

/-- Masks lines one after another, and gives the registers behind them. -/
def lines? (d : Dialect) : (r : Registers) → List (List Char) →
    Option (List (List Char) × Registers)
  | r, [] => some ([], r)
  | r, line :: rest =>
    (line? d r line).bind fun masked =>
      (lines? d masked.2 rest).map fun tail => (masked.1 :: tail.1, tail.2)

/-- What holds of the registers behind a line. -/
structure Settled (r : Registers) : Prop where
  /-- Not both a comment and a literal are open. -/
  apart : r.depth = 0 ∨ r.opened = none
  /-- An open literal stands between three quotes. -/
  triple : ∀ lit ∈ r.opened, lit.quote = .tripleDouble ∨ lit.quote = .tripleSingle
  /-- No escape is pending. -/
  unescaped : r.escape = false

end Registers

/-! ### Modes as registers -/

/-- The registers that say what a mode says. -/
def Mode.registers : Mode → Registers
  | code => .fresh
  | comment outer => ⟨outer + 1, none, false⟩
  | literal lit escaped => ⟨0, some lit, escaped⟩

variable {d : Dialect}

lemma registers_leaveComment (outer : ℕ) :
    (Mode.leaveComment outer).registers = ⟨outer, none, false⟩ := by
  cases outer <;> rfl

lemma registers_endLine (mode : Mode) : mode.endLine.registers = mode.registers.endLine := by
  cases mode with
  | code => rfl
  | comment outer => rfl
  | literal lit escaped =>
    rw [Mode.endLine]
    split_ifs with hspans
    · simp [Mode.registers, Registers.endLine, Option.filter, hspans]
    · simp [Mode.registers, Registers.endLine, Registers.fresh, Option.filter, hspans]

/-- A step as the scanner with registers takes it. -/
def Move.registers (step : Move) : Registers × List Char × ℕ :=
  (step.mode.registers, step.out, step.more)

lemma commentStep?_registers (outer : ℕ) (text : List Char) :
    Registers.commentStep? d (Mode.comment outer).registers text =
      some (commentMove d outer text).registers := by
  unfold Registers.commentStep? commentMove
  split_ifs
  · rfl
  · -- the comment that ends is counted
    have hpred : (Mode.comment outer).registers.depth.ppred = some outer := Nat.ppred_succ
    rw [hpred, Option.map_some, Move.registers, registers_leaveComment]
    rfl
  · rfl

lemma literalStep_registers (lit : Literal) (escaped : Bool) (text : List Char) :
    Registers.literalStep (Mode.literal lit escaped).registers lit text =
      (literalMove lit escaped text).registers := by
  unfold Registers.literalStep literalMove
  cases escaped with
  | true => rfl
  | false =>
    simp only [Mode.registers, Bool.false_eq_true, if_false]
    split_ifs <;> rfl

lemma codeStep_registers (c : Char) (rest : List Char) :
    Registers.codeStep d Mode.code.registers c rest = (codeMove d c rest).registers := by
  unfold Registers.codeStep codeMove
  dsimp only
  split_ifs
  · rfl
  · rfl
  · cases literalAt? d (c :: rest) <;> rfl

/-- A step with registers is the step of the mode that they stand for, and does not fail. -/
lemma step?_registers (mode : Mode) (c : Char) (rest : List Char) :
    Registers.step? d mode.registers c rest = some (move d mode c rest).registers := by
  cases mode with
  | code => exact congrArg some (codeStep_registers c rest)
  | comment outer => exact commentStep?_registers outer (c :: rest)
  | literal lit escaped => exact congrArg some (literalStep_registers lit escaped (c :: rest))

/-- A line with registers is the line of the mode that they stand for. -/
lemma line?_registers (mode : Mode) (line : List Char) :
    Registers.line? d mode.registers line =
      some ((maskLine d mode line).1, (maskLine d mode line).2.registers) := by
  fun_induction maskLine d mode line with
  | case1 mode => rw [Registers.line?, registers_endLine]
  | case2 mode c rest step tail ih =>
    rw [Registers.line?, step?_registers, Option.bind_some, Move.registers]
    dsimp only
    rw [ih, Option.map_some]

lemma lines?_registers (mode : Mode) (lines : List (List Char)) :
    Registers.lines? d mode.registers lines =
      some (maskLines d mode lines, (modeAfter d mode lines).registers) := by
  induction lines generalizing mode with
  | nil => rfl
  | cons line rest ih =>
    rw [Registers.lines?, line?_registers, Option.bind_some, ih, Option.map_some]
    rfl

/-- A mode that a line end does not change says nothing that ends with the line. -/
lemma settled_registers {mode : Mode} (h : mode.endLine = mode) : mode.registers.Settled := by
  cases mode with
  | code => exact ⟨.inl rfl, by simp [Mode.registers, Registers.fresh], rfl⟩
  | comment outer => exact ⟨.inr rfl, by simp [Mode.registers], rfl⟩
  | literal lit escaped =>
    rw [Mode.endLine] at h
    split_ifs at h with hspans
    obtain ⟨-, hescaped⟩ := Mode.literal.inj h
    refine ⟨.inl rfl, ?_, hescaped.symm⟩
    rintro _ ⟨⟩
    revert hspans
    cases lit.quote <;> decide

/-- Behind any lines, one more line is masked to a line of the same length in which every character
is the one at its place in the line or a space.  Behind it a comment and a literal are not both
open, an open literal stands between three quotes, and no escape is pending.  The same lines and the
same states come from a scanner that keeps these three apart and counts comments up and down: it
never counts below zero. -/
theorem maskLine_settled (d : Dialect) (earlier : List (List Char)) (line : List Char) :
    let reached := modeAfter d .code earlier
    let masked := maskLine d reached line
    masked.1.length = line.length ∧
      List.Forall₂ (fun out c => out = c ∨ out = ' ') masked.1 line ∧
      masked.2.registers.Settled ∧
      Registers.lines? d .fresh earlier = some (maskLines d .code earlier, reached.registers) ∧
      Registers.line? d reached.registers line = some (masked.1, masked.2.registers) := by
  intro reached masked
  have hcovers : Covers masked.1 line := covers_maskLine d reached line
  exact ⟨hcovers.length_eq, hcovers, settled_registers (endLine_maskLine d reached line),
    lines?_registers .code earlier, line?_registers reached line⟩

end Strata.Masking

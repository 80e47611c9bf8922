import Mathlib.Order.Monotone.Basic
import Strata.Language.Swift
import Strata.Proofs.Masking.Braces

/-!
# The bodies of views

The search for views follows the braces of a text character by character and looks for headers line
by line.  What it finds can be said without it.  A header counts unless an earlier one still waits
for its brace or its body is still open; its body is opened by the first brace at the depth of its
line, and closed by the brace that matches it.  The search is in a body exactly at the places
between these two braces, and a line is suspicious only if it meets a body (`signals_viewBodies`).
-/

namespace Strata.Language.Swift

open Strata.Text Strata.Masking

variable {lines : List (List Char)}

/-! ### Rows and places -/

/-- A line of a text; there is nothing on the rows behind the last. -/
def lineAt (lines : List (List Char)) (row : ℕ) : List Char := lines[row]?.getD []

/-- The place in the text of all lines at which a row starts. -/
def rowStart (lines : List (List Char)) (row : ℕ) : ℕ := (lines.take row).flatten.length

lemma flatten_take_succ (row : ℕ) :
    (lines.take (row + 1)).flatten = (lines.take row).flatten ++ lineAt lines row := by
  rw [List.take_add_one, List.flatten_append, lineAt]
  cases lines[row]? <;> simp

lemma rowStart_succ (lines : List (List Char)) (row : ℕ) :
    rowStart lines (row + 1) = rowStart lines row + (lineAt lines row).length := by
  rw [rowStart, flatten_take_succ, List.length_append]
  rfl

lemma rowStart_mono (lines : List (List Char)) : Monotone (rowStart lines) :=
  monotone_nat_of_le_succ fun row => by
    rw [rowStart_succ]
    exact Nat.le_add_right _ _

lemma take_rowStart (row : ℕ) :
    lines.flatten.take (rowStart lines row) = (lines.take row).flatten := by
  have hsplit : lines.flatten = (lines.take row).flatten ++ (lines.drop row).flatten := by
    rw [← List.flatten_append, List.take_append_drop]
  rw [hsplit, rowStart, List.take_left]

/-- The characters of a line are those of the whole text from the start of its row on. -/
lemma getElem?_flatten {row column : ℕ} {c : Char} (h : (lineAt lines row)[column]? = some c) :
    lines.flatten[rowStart lines row + column]? = some c := by
  have hlength : column < (lineAt lines row).length := (List.getElem?_eq_some_iff.1 h).1
  have hplace : rowStart lines row + column < rowStart lines (row + 1) := by
    rw [rowStart_succ]
    omega
  rw [← List.getElem?_take_of_lt hplace, take_rowStart, flatten_take_succ, rowStart,
    List.getElem?_append_right (Nat.le_add_right _ _), Nat.add_sub_cancel_left, h]

/-! ### What the bodies are -/

/-- The brace that the header on a row waits for does not come before the place `n`. -/
def Waits (lines : List (List Char)) (row n : ℕ) : Prop :=
  ∀ o, OpensFrom lines.flatten (rowStart lines row) o → n ≤ o

/-- The header on a row waits for its brace at the place `n`, or its body is open there. -/
def Busy (lines : List (List Char)) (row n : ℕ) : Prop :=
  ∀ o, OpensFrom lines.flatten (rowStart lines row) o → o < n → Lasts lines.flatten o n

/-- The row has the header of a view, and no earlier header that counts is busy where it starts. -/
def Noted (lines : List (List Char)) (row : ℕ) : Prop :=
  (viewHeader? (lineAt lines row)).isSome = true ∧
    ∀ earlier, (_ : earlier < row) → Noted lines earlier →
      ¬ Busy lines earlier (rowStart lines row)
termination_by row
decreasing_by assumption

/-- A body of a view. -/
structure ViewBody where
  /-- The name of the view. -/
  name : String
  /-- The row of its header. -/
  header : ℕ
  /-- The place of the brace that opens it, in the text of all lines. -/
  brace : ℕ
deriving DecidableEq, Repr

namespace ViewBody

/-- The body is one of the text: the header counts and gives the name, and the brace is the first
that is opened at the depth of the header. -/
structure In (lines : List (List Char)) (b : ViewBody) : Prop where
  /-- The header counts. -/
  noted : Noted lines b.header
  /-- Its line gives the name. -/
  name : viewHeader? (lineAt lines b.header) = some b.name
  /-- The brace opens the body. -/
  opens : OpensFrom lines.flatten (rowStart lines b.header) b.brace

/-- The row is not before that of the brace which opens the body, and not behind that of the brace
which matches it. -/
def Meets (lines : List (List Char)) (b : ViewBody) (row : ℕ) : Prop :=
  b.brace < rowStart lines (row + 1) ∧ Lasts lines.flatten b.brace (rowStart lines row)

end ViewBody

/-! ### One body at a time -/

section Exclusive

variable {b b' : ViewBody} {row earlier m n : ℕ}

lemma Waits.mono (h : Waits lines row n) (hm : m ≤ n) : Waits lines row m :=
  fun o ho => hm.trans (h o ho)

/-- The body of an earlier header is closed where a later one counts. -/
lemma Noted.exists_matching (h : Noted lines row) (hearlier : Noted lines earlier)
    (hlt : earlier < row) : ∃ o c, OpensFrom lines.flatten (rowStart lines earlier) o ∧
      Matching lines.flatten o c ∧ c < rowStart lines row := by
  rw [Noted] at h
  have hbusy := h.2 earlier hlt hearlier
  simp only [Busy, Lasts, not_forall, not_le] at hbusy
  obtain ⟨o, ho, -, c, hc, hless⟩ := hbusy
  exact ⟨o, c, ho, hc, hless⟩

lemma ViewBody.In.exists_matching (hb : b.In lines) (h : Noted lines row) (hlt : b.header < row) :
    ∃ c, Matching lines.flatten b.brace c ∧ c < rowStart lines row := by
  obtain ⟨o, c, ho, hc, hless⟩ := h.exists_matching hb.noted hlt
  exact ⟨c, ho.unique hb.opens ▸ hc, hless⟩

/-- While a header waits for its brace, no body that was opened before is open. -/
lemma ViewBody.In.not_lasts (hb : b.In lines) (hrow : Noted lines row) (hwaits : Waits lines row n)
    (hbrace : b.brace < n) (hm : rowStart lines row ≤ m) : ¬ Lasts lines.flatten b.brace m := by
  intro hlasts
  rcases Nat.lt_trichotomy b.header row with hlt | heq | hlt
  · obtain ⟨c, hc, hless⟩ := hb.exists_matching hrow hlt
    have hle := hlasts c hc
    omega
  · have hle := hwaits b.brace (heq ▸ hb.opens)
    omega
  · obtain ⟨o, c, ho, hc, hless⟩ := hb.noted.exists_matching hrow hlt
    have hle := hwaits o ho
    have hoc := hc.lt
    have hstart := hb.opens.le
    omega

lemma ViewBody.In.eq_of_header (hb : b.In lines) (hb' : b'.In lines) (h : b.header = b'.header) :
    b = b' := by
  obtain ⟨name, header, brace⟩ := b
  obtain ⟨name', header', brace'⟩ := b'
  obtain rfl : header = header' := h
  have hname : name = name' := Option.some.inj (hb.name.symm.trans hb'.name)
  have hbrace : brace = brace' := hb.opens.unique hb'.opens
  rw [hname, hbrace]

/-- A row meets at most one body. -/
lemma ViewBody.In.eq_of_meets (hb : b.In lines) (hb' : b'.In lines) (h : b.Meets lines row)
    (h' : b'.Meets lines row) : b = b' := by
  -- the later of two headers comes behind the row on which the body of the other is closed
  have hless : ∀ {b b' : ViewBody}, b.In lines → b'.In lines → b.Meets lines row →
      b'.Meets lines row → ¬ b.header < b'.header := by
    intro b b' hb hb' h h' hlt
    obtain ⟨c, hc, hless⟩ := hb.exists_matching hb'.noted hlt
    have hstart : rowStart lines row < rowStart lines b'.header := (h.2 c hc).trans_lt hless
    have hrow : row + 1 ≤ b'.header := by
      by_contra hnot
      exact absurd (rowStart_mono lines (Nat.lt_succ_iff.1 (not_le.1 hnot))) (not_le.2 hstart)
    exact absurd ((rowStart_mono lines hrow).trans hb'.opens.le) (not_le.2 h'.1)
  refine hb.eq_of_header hb' (Nat.le_antisymm ?_ ?_)
  · exact not_lt.1 (hless hb' hb h' h)
  · exact not_lt.1 (hless hb hb' h h')

end Exclusive

/-! ### From one place to the next -/

/-- Among the first rows there is a header that counts and waits for its brace at the place `n`: it
has this name and stands at this depth. -/
def Awaited (lines : List (List Char)) (rows n : ℕ) (name : String) (outer : ℕ) : Prop :=
  ∃ row < rows, Noted lines row ∧ viewHeader? (lineAt lines row) = some name ∧
    Waits lines row n ∧ depthAt lines.flatten (rowStart lines row) = outer

/-- The place `n` lies in a body whose brace stands at this depth. -/
def Inside (lines : List (List Char)) (n outer : ℕ) : Prop :=
  ∃ b : ViewBody, b.In lines ∧ Encloses lines.flatten b.brace n ∧
    depthAt lines.flatten b.brace = outer

/-- The body is opened before the place `n`, and not closed before the last of the first rows. -/
def Touched (lines : List (List Char)) (rows n : ℕ) (b : ViewBody) : Prop :=
  b.In lines ∧ b.brace < n ∧ Lasts lines.flatten b.brace (rowStart lines (rows - 1))

section Places

variable {rows n outer : ℕ} {name : String} {b : ViewBody}

lemma not_inside_of_awaited (h : Awaited lines rows n name outer)
    (hrows : ∀ row < rows, rowStart lines row ≤ n) {outer' : ℕ} : ¬ Inside lines n outer' := by
  obtain ⟨row, hrow, hnoted, -, hwaits, -⟩ := h
  rintro ⟨b, hb, ⟨hbrace, hlasts⟩, -⟩
  exact hb.not_lasts hnoted hwaits hbrace (hrows row hrow) hlasts

lemma waits_succ_iff {row : ℕ} (hn : rowStart lines row ≤ n) :
    Waits lines row (n + 1) ↔ Waits lines row n ∧ ¬ (lines.flatten[n]? = some '\x7b' ∧
      depthAt lines.flatten n = depthAt lines.flatten (rowStart lines row)) := by
  constructor
  · intro h
    have hwaits := h.mono n.le_succ
    refine ⟨hwaits, fun hbrace => ?_⟩
    have hle := h n ((opensFrom_iff hn hwaits).2 hbrace)
    omega
  · rintro ⟨hwaits, hbrace⟩ o ho
    refine Nat.lt_of_le_of_ne (hwaits o ho) fun heq => hbrace ?_
    exact (opensFrom_iff hn hwaits).1 (heq ▸ ho)

lemma touched_succ_iff (hstart : rowStart lines (rows - 1) ≤ n) :
    Touched lines rows (n + 1) b ↔ Touched lines rows n b ∨ b.In lines ∧ b.brace = n := by
  constructor
  · rintro ⟨hb, hbrace, hlasts⟩
    rcases (Nat.lt_succ_iff.1 hbrace).eq_or_lt with heq | hlt
    · exact .inr ⟨hb, heq⟩
    · exact .inl ⟨hb, hlt, hlasts⟩
  · rintro (⟨hb, hbrace, hlasts⟩ | ⟨hb, rfl⟩)
    · exact ⟨hb, hbrace.trans (Nat.lt_succ_self n), hlasts⟩
    · exact ⟨hb, Nat.lt_succ_self _, lasts_of_le_succ (hstart.trans (Nat.le_succ _))⟩

variable (hrows : ∀ row < rows, rowStart lines row ≤ n)

include hrows

/-- A header waits until a brace is opened at its depth. -/
lemma awaited_succ_iff : Awaited lines rows (n + 1) name outer ↔
    Awaited lines rows n name outer ∧
      ¬ (lines.flatten[n]? = some '\x7b' ∧ depthAt lines.flatten n = outer) := by
  constructor
  · rintro ⟨row, hrow, hnoted, hname, hwaits, rfl⟩
    obtain ⟨hwaits, hbrace⟩ := (waits_succ_iff (hrows row hrow)).1 hwaits
    exact ⟨⟨row, hrow, hnoted, hname, hwaits, rfl⟩, hbrace⟩
  · rintro ⟨⟨row, hrow, hnoted, hname, hwaits, rfl⟩, hbrace⟩
    exact ⟨row, hrow, hnoted, hname, (waits_succ_iff (hrows row hrow)).2 ⟨hwaits, hbrace⟩, rfl⟩

variable (hn : n < rowStart lines rows)

include hn

/-- A body is opened where a brace is opened at the depth of a header that waits. -/
lemma exists_brace_iff : (∃ b : ViewBody, b.In lines ∧ b.brace = n ∧ b.name = name) ↔
    lines.flatten[n]? = some '\x7b' ∧ Awaited lines rows n name (depthAt lines.flatten n) := by
  constructor
  · rintro ⟨b, hb, rfl, rfl⟩
    refine ⟨hb.opens.brace, b.header, ?_, hb.noted, hb.name, ?_, hb.opens.depth.symm⟩
    · by_contra hnot
      exact absurd ((rowStart_mono lines (not_lt.1 hnot)).trans hb.opens.le) (not_le.2 hn)
    · exact fun o ho => (hb.opens.unique ho).le
  · rintro ⟨hbrace, row, hrow, hnoted, hname, hwaits, hdepth⟩
    refine ⟨⟨name, row, n⟩, ⟨hnoted, hname, ?_⟩, rfl, rfl⟩
    exact (opensFrom_iff (hrows row hrow) hwaits).2 ⟨hbrace, hdepth.symm⟩

/-- A body lasts from the brace that opens it to the brace at which the depth falls back. -/
lemma inside_succ_iff : Inside lines (n + 1) outer ↔
    (lines.flatten[n]? = some '\x7b' ∧ depthAt lines.flatten n = outer ∧
      ∃ name, Awaited lines rows n name outer) ∨
    Inside lines n outer ∧
      ¬ (lines.flatten[n]? = some '\x7d' ∧ depthAt lines.flatten n - 1 = outer) := by
  constructor
  · rintro ⟨b, hb, hencloses, rfl⟩
    rcases encloses_succ_iff.1 hencloses with hbrace | ⟨hencloses, hmatch⟩
    · have hopened := (exists_brace_iff hrows hn).1 ⟨b, hb, hbrace, rfl⟩
      rw [hbrace]
      exact .inl ⟨hopened.1, rfl, b.name, hopened.2⟩
    · refine .inr ⟨⟨b, hb, hencloses, rfl⟩, fun ⟨hclose, hback⟩ => hmatch ?_⟩
      exact (matching_iff_depthAt hb.opens.brace hencloses hclose).2 hback
  · rintro (⟨hopen, rfl, name, hawaited⟩ | ⟨⟨b, hb, hencloses, rfl⟩, hclose⟩)
    · obtain ⟨b, hb, hbrace, -⟩ := (exists_brace_iff hrows hn).2 ⟨hopen, hawaited⟩
      exact ⟨b, hb, encloses_succ_iff.2 (.inl hbrace), by rw [hbrace]⟩
    · refine ⟨b, hb, encloses_succ_iff.2 (.inr ⟨hencloses, fun hmatch => hclose ?_⟩), rfl⟩
      exact ⟨hmatch.brace,
        (matching_iff_depthAt hb.opens.brace hencloses hmatch.brace).1 hmatch⟩

end Places

/-! ### From one row to the next -/

section Rows

variable {row outer : ℕ} {name : String}

/-- A header counts if nothing is waited for and no body is open. -/
lemma noted_iff : Noted lines row ↔ (viewHeader? (lineAt lines row)).isSome = true ∧
    (∀ name outer, ¬ Awaited lines row (rowStart lines row) name outer) ∧
      ∀ outer, ¬ Inside lines (rowStart lines row) outer := by
  rw [Noted]
  refine and_congr_right fun _ => ⟨fun h => ⟨?_, ?_⟩, fun ⟨hawaited, hinside⟩ => ?_⟩
  · rintro name outer ⟨earlier, hlt, hnoted, -, hwaits, -⟩
    exact h earlier hlt hnoted fun o ho hless => absurd (hwaits o ho) (by omega)
  · rintro outer ⟨b, hb, ⟨hbrace, hlasts⟩, -⟩
    have hlt : b.header < row := by
      by_contra hnot
      exact absurd ((rowStart_mono lines (not_lt.1 hnot)).trans hb.opens.le) (not_le.2 hbrace)
    exact h b.header hlt hb.noted fun o ho _ => hb.opens.unique ho ▸ hlasts
  · intro earlier hlt hnoted hbusy
    have hheader : (viewHeader? (lineAt lines earlier)).isSome = true := by
      rw [Noted] at hnoted
      exact hnoted.1
    obtain ⟨name, hname⟩ := Option.isSome_iff_exists.1 hheader
    by_cases hwaits : Waits lines earlier (rowStart lines row)
    · exact hawaited name _ ⟨earlier, hlt, hnoted, hname, hwaits, rfl⟩
    · simp only [Waits, not_forall, not_le] at hwaits
      obtain ⟨o, ho, hless⟩ := hwaits
      exact hinside _ ⟨⟨name, earlier, o⟩, ⟨hnoted, hname, ho⟩, ⟨hless, hbusy o ho hless⟩, rfl⟩

/-- Where a row starts, its own header is waited for if it counts. -/
lemma awaited_succ_rows_iff : Awaited lines (row + 1) (rowStart lines row) name outer ↔
    Awaited lines row (rowStart lines row) name outer ∨
      Noted lines row ∧ viewHeader? (lineAt lines row) = some name ∧
        depthAt lines.flatten (rowStart lines row) = outer := by
  constructor
  · rintro ⟨header, hlt, hnoted, hname, hwaits, hdepth⟩
    rcases (Nat.lt_succ_iff.1 hlt).eq_or_lt with rfl | hlt
    · exact .inr ⟨hnoted, hname, hdepth⟩
    · exact .inl ⟨header, hlt, hnoted, hname, hwaits, hdepth⟩
  · rintro (⟨header, hlt, hnoted, hname, hwaits, hdepth⟩ | ⟨hnoted, hname, hdepth⟩)
    · exact ⟨header, hlt.trans (Nat.lt_succ_self row), hnoted, hname, hwaits, hdepth⟩
    · exact ⟨row, Nat.lt_succ_self row, hnoted, hname, fun o ho => ho.le, hdepth⟩

end Rows

/-! ### The search -/

namespace ViewState

variable {s : ViewState} {c : Char} {name : String} {outer : ℕ}

/-- A character opens the body that is waited for, or it changes the depth and can close the body
that is open. -/
lemma step_cases (s : ViewState) (c : Char) :
    (∃ name, c = '\x7b' ∧ s.pending = some (name, s.depth) ∧
      s.step c = ⟨s.depth + 1, none, some s.depth, name, true⟩) ∨
    (∀ name, ¬ (c = '\x7b' ∧ s.pending = some (name, s.depth))) ∧
      s.step c = ⟨braceStep s.depth c, s.pending,
        if c = '\x7d' ∧ s.active = some (s.depth - 1) then none else s.active,
        s.scope, s.touched⟩ := by
  by_cases hopen : c = '\x7b'
  · subst hopen
    cases hpending : s.pending with
    | none => exact .inr ⟨by simp, by simp [step, openBrace, braceStep, hpending]⟩
    | some waiting =>
      obtain ⟨name, outer⟩ := waiting
      by_cases hdepth : s.depth = outer
      · left
        exact ⟨name, rfl, by rw [hdepth], by simp [step, openBrace, hpending, hdepth]⟩
      · right
        refine ⟨fun name' h => hdepth (Prod.mk.inj (Option.some.inj h.2)).2.symm, ?_⟩
        simp [step, openBrace, braceStep, hpending, hdepth]
  · right
    refine ⟨fun name h => hopen h.1, ?_⟩
    by_cases hclose : c = '\x7d'
    · simp [step, closeBrace, braceStep, hclose]
    · simp [step, braceStep, hopen, hclose]

lemma depth_step (s : ViewState) (c : Char) : (s.step c).depth = braceStep s.depth c := by
  rcases s.step_cases c with ⟨name, rfl, -, hstep⟩ | ⟨-, hstep⟩
  · rw [hstep]
    rfl
  · rw [hstep]

lemma pending_step : (s.step c).pending = some (name, outer) ↔
    s.pending = some (name, outer) ∧ ¬ (c = '\x7b' ∧ s.depth = outer) := by
  rcases s.step_cases c with ⟨name', rfl, hpending, hstep⟩ | ⟨hnone, hstep⟩
  · simp [hstep, hpending]
  · rw [hstep, iff_self_and]
    rintro hpending ⟨hopen, rfl⟩
    exact hnone name ⟨hopen, hpending⟩

lemma active_step (hs : s.pending = none ∨ s.active = none) :
    (s.step c).active = some outer ↔
      (c = '\x7b' ∧ s.depth = outer ∧ ∃ name, s.pending = some (name, outer)) ∨
      s.active = some outer ∧ ¬ (c = '\x7d' ∧ s.depth - 1 = outer) := by
  rcases s.step_cases c with ⟨name, rfl, hpending, hstep⟩ | ⟨hnone, hstep⟩
  · have hactive : s.active = none := hs.resolve_left (by simp [hpending])
    simp +contextual [hstep, hpending, hactive]
  · have hopens : ¬ (c = '\x7b' ∧ s.depth = outer ∧ ∃ name, s.pending = some (name, outer)) := by
      rintro ⟨hopen, rfl, name, hpending⟩
      exact hnone name ⟨hopen, hpending⟩
    rw [hstep, or_iff_right hopens]
    grind

lemma touched_step : (s.step c).touched = true ↔
    s.touched = true ∨ c = '\x7b' ∧ ∃ name, s.pending = some (name, s.depth) := by
  rcases s.step_cases c with ⟨name, rfl, hpending, hstep⟩ | ⟨hnone, hstep⟩
  · simp [hstep, hpending]
  · rw [hstep, or_iff_left]
    rintro ⟨hopen, name, hpending⟩
    exact hnone name ⟨hopen, hpending⟩

lemma scope_step_of_pending (h : s.pending = some (name, s.depth)) :
    (s.step '\x7b').scope = name := by
  simp [step, openBrace, h]

lemma scope_step (h : ∀ name, ¬ (c = '\x7b' ∧ s.pending = some (name, s.depth))) :
    (s.step c).scope = s.scope := by
  rcases s.step_cases c with ⟨name, hopen, hpending, -⟩ | ⟨-, hstep⟩
  · exact absurd ⟨hopen, hpending⟩ (h name)
  · rw [hstep]

lemma pending_enterLine {line : List Char} :
    (s.enterLine line).pending = some (name, outer) ↔ s.pending = some (name, outer) ∨
      (s.pending = none ∧ s.active = none) ∧ viewHeader? line = some name ∧ s.depth = outer := by
  cases hpending : s.pending with
  | some waiting => simp [enterLine, hpending]
  | none => cases hactive : s.active <;> simp [enterLine, hpending, hactive]

end ViewState

/-- The state of the search at the place `n`, with the first rows begun, says what is waited for,
which body is open, and which body the last of these rows meets so far. -/
structure Follows (lines : List (List Char)) (rows n : ℕ) (s : ViewState) : Prop where
  /-- The depth is that of the place. -/
  depth : s.depth = depthAt lines.flatten n
  /-- A header is pending if it is waited for. -/
  pending : ∀ name outer, s.pending = some (name, outer) ↔ Awaited lines rows n name outer
  /-- A body is active if the place lies in it. -/
  active : ∀ outer, s.active = some outer ↔ Inside lines n outer
  /-- The row is touched if it meets a body. -/
  touched : s.touched = true ↔ ∃ b, Touched lines rows n b
  /-- The scope is the name of that body. -/
  scope : ∀ b, Touched lines rows n b → s.scope = b.name

namespace Follows

variable {rows n row : ℕ} {s : ViewState}

lemma start (lines : List (List Char)) : Follows lines 0 0 {} where
  depth := rfl
  pending := by
    intro name outer
    simp [Awaited]
  active := by
    intro outer
    simp [Inside, Encloses]
  touched := by simp [Touched]
  scope := by
    rintro b ⟨-, hbrace, -⟩
    exact absurd hbrace (Nat.not_lt_zero _)

/-- Nothing is waited for while a body is open. -/
lemma pending_or_active (h : Follows lines rows n s)
    (hrows : ∀ row < rows, rowStart lines row ≤ n) : s.pending = none ∨ s.active = none := by
  cases hpending : s.pending with
  | none => exact .inl rfl
  | some waiting =>
    right
    have hawaited := (h.pending waiting.1 waiting.2).1 hpending
    rw [Option.eq_none_iff_forall_ne_some]
    exact fun outer hactive => not_inside_of_awaited hawaited hrows ((h.active outer).1 hactive)

/-- The start of a row is a step of the search. -/
lemma enterLine (h : Follows lines row (rowStart lines row) s) :
    Follows lines (row + 1) (rowStart lines row) (s.enterLine (lineAt lines row)) where
  depth := h.depth
  pending := by
    intro name outer
    have hidle : s.pending = none ∧ s.active = none ↔
        (∀ name outer, ¬ Awaited lines row (rowStart lines row) name outer) ∧
          ∀ outer, ¬ Inside lines (rowStart lines row) outer := by
      simp only [← h.pending, ← h.active, Option.eq_none_iff_forall_ne_some, Prod.forall, ne_eq]
    rw [ViewState.pending_enterLine, h.pending, awaited_succ_rows_iff, hidle, noted_iff, h.depth]
    refine or_congr_right ⟨fun ⟨hidle, hname, hdepth⟩ => ⟨⟨?_, hidle⟩, hname, hdepth⟩,
      fun ⟨⟨_, hidle⟩, hname, hdepth⟩ => ⟨hidle, hname, hdepth⟩⟩
    rw [hname]
    rfl
  active := h.active
  touched := by
    have hactive : (s.enterLine (lineAt lines row)).touched = true ↔
        ∃ outer, s.active = some outer := Option.isSome_iff_exists
    rw [hactive]
    constructor
    · rintro ⟨outer, houter⟩
      obtain ⟨b, hb, ⟨hbrace, hlasts⟩, -⟩ := (h.active outer).1 houter
      exact ⟨b, hb, hbrace, hlasts⟩
    · rintro ⟨b, hb, hbrace, hlasts⟩
      exact ⟨_, (h.active _).2 ⟨b, hb, ⟨hbrace, hlasts⟩, rfl⟩⟩
  scope := by
    rintro b ⟨hb, hbrace, hlasts⟩
    refine h.scope b ⟨hb, hbrace, hlasts.mono (rowStart_mono lines ?_)⟩
    omega

section Step

variable (h : Follows lines rows n s) (hrows : ∀ row < rows, rowStart lines row ≤ n)
  (hn : n < rowStart lines rows) {c : Char} (hc : lines.flatten[n]? = some c)

include hrows hn

lemma rowStart_pred_le : rowStart lines (rows - 1) ≤ n := by
  refine hrows (rows - 1) (Nat.sub_one_lt ?_)
  rintro rfl
  exact absurd hn (Nat.not_lt_zero _)

include h hc

/-- The search enters the bodies that are opened at the place. -/
lemma opens_iff {name : String} : c = '\x7b' ∧ s.pending = some (name, s.depth) ↔
    ∃ b : ViewBody, b.In lines ∧ b.brace = n ∧ b.name = name := by
  rw [exists_brace_iff hrows hn, hc, Option.some_inj, h.pending, h.depth]

lemma touched_step : (s.step c).touched = true ↔ ∃ b, Touched lines rows (n + 1) b := by
  have hopens : (c = '\x7b' ∧ ∃ name, s.pending = some (name, s.depth)) ↔
      ∃ b : ViewBody, b.In lines ∧ b.brace = n := by
    constructor
    · rintro ⟨hopen, name, hpending⟩
      obtain ⟨b, hb, hbrace, -⟩ := (opens_iff h hrows hn hc).1 ⟨hopen, hpending⟩
      exact ⟨b, hb, hbrace⟩
    · rintro ⟨b, hb, hbrace⟩
      obtain ⟨hopen, hpending⟩ := (opens_iff h hrows hn hc).2 ⟨b, hb, hbrace, rfl⟩
      exact ⟨hopen, b.name, hpending⟩
  simp only [ViewState.touched_step, h.touched, hopens,
    touched_succ_iff (rowStart_pred_le hrows hn), exists_or]

lemma scope_step {b : ViewBody} (hb : Touched lines rows (n + 1) b) :
    (s.step c).scope = b.name := by
  rcases (touched_succ_iff (rowStart_pred_le hrows hn)).1 hb with hb | ⟨hb, hbrace⟩
  · rw [ViewState.scope_step, h.scope b hb]
    -- no other body can be opened on a row that meets one
    rintro name ⟨-, hpending⟩
    obtain ⟨row, hrow, hnoted, -, hwaits, -⟩ := (h.pending name s.depth).1 hpending
    obtain ⟨hb, hbrace, hlasts⟩ := hb
    exact hb.not_lasts hnoted hwaits hbrace (rowStart_mono lines (Nat.le_sub_one_of_lt hrow)) hlasts
  · obtain ⟨rfl, hpending⟩ := (opens_iff h hrows hn hc).2 ⟨b, hb, hbrace, rfl⟩
    exact ViewState.scope_step_of_pending hpending

/-- A character is a step of the search. -/
lemma step : Follows lines rows (n + 1) (s.step c) where
  depth := by rw [ViewState.depth_step, h.depth, depthAt_succ hc]
  pending := by
    intro name outer
    rw [ViewState.pending_step, h.pending, h.depth, awaited_succ_iff hrows, hc, Option.some_inj]
  active := by
    intro outer
    rw [ViewState.active_step (h.pending_or_active hrows), h.active, h.depth,
      inside_succ_iff hrows hn, hc, Option.some_inj, Option.some_inj]
    simp only [h.pending]
  touched := touched_step h hrows hn hc
  scope := fun _ hb => scope_step h hrows hn hc hb

end Step

end Follows

/-- The state of the search before a row. -/
def stateBefore (lines : List (List Char)) (row : ℕ) : ViewState :=
  (lines.take row).foldl ViewState.scanLine {}

/-- The state of the search on a row, before the character of a column. -/
def stateAt (lines : List (List Char)) (row column : ℕ) : ViewState :=
  ((lineAt lines row).take column).foldl ViewState.step
    ((stateBefore lines row).enterLine (lineAt lines row))

lemma stateBefore_succ {row : ℕ} (h : row < lines.length) :
    stateBefore lines (row + 1) = stateAt lines row (lineAt lines row).length := by
  rw [stateBefore, List.take_add_one, List.getElem?_eq_getElem h, stateAt, List.take_length, lineAt,
    List.getElem?_eq_getElem h, List.foldl_append]
  rfl

lemma Follows.stateAt {row : ℕ} (h : Follows lines row (rowStart lines row) (stateBefore lines row))
    {column : ℕ} (hcolumn : column ≤ (lineAt lines row).length) :
    Follows lines (row + 1) (rowStart lines row + column) (stateAt lines row column) := by
  induction column with
  | zero => exact h.enterLine
  | succ column ih =>
    obtain ⟨c, hc⟩ : ∃ c, (lineAt lines row)[column]? = some c :=
      ⟨_, List.getElem?_eq_getElem hcolumn⟩
    have hstate : Swift.stateAt lines row (column + 1) =
        (Swift.stateAt lines row column).step c := by
      rw [Swift.stateAt, List.take_add_one, hc, List.foldl_append]
      rfl
    rw [hstate]
    refine (ih (by omega)).step (fun header hheader => ?_) ?_ (getElem?_flatten hc)
    · have hle := rowStart_mono lines (Nat.lt_succ_iff.1 hheader)
      omega
    · rw [rowStart_succ]
      omega

lemma follows_stateBefore {row : ℕ} (h : row ≤ lines.length) :
    Follows lines row (rowStart lines row) (stateBefore lines row) := by
  induction row with
  | zero => exact .start lines
  | succ row ih =>
    rw [stateBefore_succ h, rowStart_succ]
    exact (ih (by omega)).stateAt le_rfl

/-! ### Suspicious lines -/

/-- The depths at the starts of the rows are those of the places there. -/
lemma braceDepths_eq (lines : List (List Char)) :
    braceDepths lines =
      (List.range lines.length).map fun row => depthAt lines.flatten (rowStart lines row) := by
  have hfrom : ∀ depth, braceDepthsFrom depth lines =
      (List.range lines.length).map fun row => (lines.take row).flatten.foldl braceStep depth := by
    induction lines with
    | nil => exact fun depth => rfl
    | cons line lines ih =>
      intro depth
      rw [braceDepthsFrom, ih, List.length_cons, List.range_succ_eq_map, List.map_cons,
        List.map_map]
      simp [Function.comp_def]
  simp only [depthAt, take_rowStart]
  exact hfrom 0

/-- The signal is one of those that a line gives, with its number and the name of the view. -/
structure FoundOn (line source : List Char) (following : List (List Char)) (number : ℕ)
    (scope : String) (signal : Signal) : Prop where
  /-- The line, or with it the following ones, looks like that. -/
  kind : signal.kind ∈ lineKinds line following
  /-- The number of the line. -/
  line : signal.line = number
  /-- The name of the view. -/
  scope : signal.scope = scope
  /-- The line of the source. -/
  text : signal.text = String.ofList (trim source)

/-- Signals come from the lines on which the search touches a body. -/
lemma mem_signalsFrom_iff {number : ℕ} {s : ViewState} {source : List (List Char × List Char)}
    {signal : Signal} : signal ∈ signalsFrom number s source ↔
      ∃ row line text, source[row]? = some (line, text) ∧
        let after := ((source.map Prod.fst).take (row + 1)).foldl ViewState.scanLine s
        after.touched = true ∧ FoundOn line text ((source.map Prod.fst).drop (row + 1))
          (number + row) after.scope signal := by
  induction source generalizing number s with
  | nil => simp [signalsFrom]
  | cons first rest ih =>
    obtain ⟨line, text⟩ := first
    rw [signalsFrom, List.mem_append, ih]
    constructor
    · rintro (hhere | ⟨row, line', text', hrow, htouched, hfound⟩)
      · split at hhere
        · rename_i htouched
          obtain ⟨kind, hkind, rfl⟩ := List.mem_map.1 hhere
          exact ⟨0, line, text, rfl, htouched, hkind, rfl, rfl, rfl⟩
        · exact absurd hhere List.not_mem_nil
      · rw [show number + 1 + row = number + (row + 1) by omega] at hfound
        exact ⟨row + 1, line', text', hrow, htouched, hfound⟩
    · rintro ⟨row, line', text', hrow, htouched, hfound⟩
      cases row with
      | zero =>
        obtain ⟨rfl, rfl⟩ : line = line' ∧ text = text' := by simpa using hrow
        obtain ⟨hkind, hline, hscope, htext⟩ := hfound
        have hsignal : signal = ⟨signal.kind, number, (s.scanLine line).scope,
            String.ofList (trim text)⟩ := by
          cases signal
          exact Signal.mk.injEq .. ▸ ⟨rfl, hline, hscope, htext⟩
        left
        rw [if_pos (show (s.scanLine line).touched = true from htouched)]
        exact List.mem_map.2 ⟨signal.kind, hkind, hsignal.symm⟩
      | succ row =>
        right
        rw [show number + (row + 1) = number + 1 + row by omega] at hfound
        exact ⟨row, line', text', hrow, htouched, hfound⟩

/-- Signals come from the bodies of views, and from all of them.  The depth at which a line starts
is its brace depth.  The search never waits for a brace while a body is open, and a body is open
exactly at the places behind the brace that opens it and up to the brace that matches it.  A line is
searched if and only if it meets a body, and it meets at most one.  So a signal is on a line that is
not before the brace of a body and not behind the brace that matches it, and has the name that the
header of this body gives. -/
theorem signals_viewBodies (source : List (List Char × List Char)) :
    let lines := source.map Prod.fst
    (List.range lines.length).map (fun row => (stateBefore lines row).depth) = braceDepths lines ∧
    (∀ row < lines.length, ∀ column ≤ (lineAt lines row).length,
      let s := stateAt lines row column
      (s.pending = none ∨ s.active = none) ∧
      ∀ outer, s.active = some outer ↔ ∃ b : ViewBody, b.In lines ∧
        Encloses lines.flatten b.brace (rowStart lines row + column) ∧
          depthAt lines.flatten b.brace = outer) ∧
    (∀ row < lines.length,
      ((stateBefore lines (row + 1)).touched = true ↔
        ∃ b : ViewBody, b.In lines ∧ b.Meets lines row) ∧
      ∀ b b' : ViewBody, b.In lines → b'.In lines → b.Meets lines row → b'.Meets lines row →
        b = b') ∧
    ∀ signal, signal ∈ signalsFrom 1 {} source ↔
      ∃ row line text, source[row]? = some (line, text) ∧
        ∃ b : ViewBody, b.In lines ∧ b.Meets lines row ∧
          FoundOn line text (lines.drop (row + 1)) (row + 1) b.name signal := by
  intro lines
  have htouched_iff : ∀ row b, Touched lines (row + 1) (rowStart lines (row + 1)) b ↔
      b.In lines ∧ b.Meets lines row := fun row b => Iff.rfl
  refine ⟨?_, fun row hrow column hcolumn => ?_, fun row hrow => ⟨?_, ?_⟩, fun signal => ?_⟩
  · rw [braceDepths_eq]
    refine List.map_congr_left fun row hrow => ?_
    exact (follows_stateBefore (List.mem_range.1 hrow).le).depth
  · have hfollows := (follows_stateBefore hrow.le).stateAt hcolumn
    refine ⟨hfollows.pending_or_active fun header hheader => ?_, hfollows.active⟩
    exact (rowStart_mono lines (Nat.lt_succ_iff.1 hheader)).trans (Nat.le_add_right _ _)
  · rw [(follows_stateBefore hrow).touched]
    simp only [htouched_iff]
  · exact fun b b' hb hb' h h' => hb.eq_of_meets hb' h h'
  · rw [mem_signalsFrom_iff]
    refine exists_congr fun row => exists_congr fun line => exists_congr fun text =>
      and_congr_right fun hpair => ?_
    have hrow : row < lines.length := by
      rw [List.length_map]
      exact (List.getElem?_eq_some_iff.1 hpair).1
    have hfollows := follows_stateBefore hrow
    rw [Nat.add_comm 1 row]
    constructor
    · rintro ⟨htouched, hfound⟩
      obtain ⟨b, hb⟩ := hfollows.touched.1 htouched
      exact ⟨b, hb.1, hb.2, hfollows.scope b hb ▸ hfound⟩
    · rintro ⟨b, hb, hmeets, hfound⟩
      have htouched := (htouched_iff row b).2 ⟨hb, hmeets⟩
      exact ⟨hfollows.touched.2 ⟨b, htouched⟩, (hfollows.scope b htouched).symm ▸ hfound⟩

/-- A class with a brace too many, then a view whose body starts on the line behind its header. -/
def homeSource : List (List Char × List Char) :=
  ["class Loader \x7b", "\x7d\x7d", "struct HomeView: View", "\x7b func load() \x7b",
    "URLSession.shared", "\x7d \x7d", "URLSession.shared"].map fun line =>
      (line.toList, line.toList)

/-- The request in the view is found, and the one behind it is not. -/
theorem signals_viewBodies_homeView :
    braceDepths (homeSource.map Prod.fst) = [0, 1, 0, 0, 2, 2, 0] ∧
    signalsFrom 1 {} homeSource = [⟨.networking, 5, "HomeView", "URLSession.shared"⟩] ∧
    (∃ b : ViewBody, b.In (homeSource.map Prod.fst) ∧ b.Meets (homeSource.map Prod.fst) 4 ∧
      b.name = "HomeView") ∧
    ¬ ∃ b : ViewBody, b.In (homeSource.map Prod.fst) ∧ b.Meets (homeSource.map Prod.fst) 6 := by
  have hsignals : signalsFrom 1 {} homeSource =
      [⟨.networking, 5, "HomeView", "URLSession.shared"⟩] := by decide +kernel
  obtain ⟨-, -, hrows, hmem⟩ := signals_viewBodies homeSource
  refine ⟨by decide +kernel, hsignals, ?_, ?_⟩
  · have hfirst := (hmem ⟨.networking, 5, "HomeView", "URLSession.shared"⟩).1
      (hsignals ▸ List.mem_singleton_self _)
    obtain ⟨row, line, text, -, b, hb, hmeets, hfound⟩ := hfirst
    obtain rfl : 4 = row := Nat.succ.inj hfound.line
    exact ⟨b, hb, hmeets, hfound.scope.symm⟩
  · rw [← (hrows 6 (by decide)).1]
    decide +kernel

end Strata.Language.Swift

import Strata.Proofs.Masking.Steps

/-!
# Masking a whole text

Masking cuts a text into lines and runs over them one by one.  The same can be done without
cutting: a scanner that runs over the whole text, looks no further than the line end at each step,
copies line ends and changes its mode there.  What it writes, cut into lines, are the masked lines,
and it ends in the mode in which the scanner of lines ends.  Delimiters, comments and literals can
thus be followed through a text without regard to its lines.
-/

namespace Strata.Masking

open Strata.Text

variable {d : Dialect} {mode : Mode}

/-! ### Lines after lines -/

/-- The mode after some lines. -/
def modeAfter (d : Dialect) : (mode : Mode) → List (List Char) → Mode
  | mode, [] => mode
  | mode, line :: rest => modeAfter d (maskLine d mode line).2 rest

lemma maskLines_append (d : Dialect) (mode : Mode) (before after : List (List Char)) :
    maskLines d mode (before ++ after) =
      maskLines d mode before ++ maskLines d (modeAfter d mode before) after := by
  induction before generalizing mode with
  | nil => rfl
  | cons line before ih => simp [maskLines, modeAfter, ih]

lemma length_maskLines (d : Dialect) (mode : Mode) (lines : List (List Char)) :
    (maskLines d mode lines).length = lines.length := by
  induction lines generalizing mode with
  | nil => rfl
  | cons line rest ih => simp [maskLines, ih]

lemma Mode.endLine_endLine (mode : Mode) : mode.endLine.endLine = mode.endLine := by
  cases mode with
  | code => rfl
  | comment outer => rfl
  | literal lit escaped =>
    cases hspans : lit.quote.spansLines <;> simp [endLine, hspans]

/-- A line starts in a mode that a line end does not change. -/
lemma endLine_maskLine (d : Dialect) (mode : Mode) (line : List Char) :
    (maskLine d mode line).2.endLine = (maskLine d mode line).2 := by
  fun_induction maskLine d mode line with
  | case1 mode => exact mode.endLine_endLine
  | case2 mode c rest step tail ih => exact ih

/-- Covering a first line leaves it a first line. -/
lemma Covers.isFirstLine {line out tail tail' : List Char} (hcovers : Covers out line)
    (h : IsFirstLine line tail) (htail : Tail tail') (hhead : tail'.head? = tail.head?) :
    IsFirstLine out tail' := by
  induction hcovers with
  | nil => exact isFirstLine_nil htail
  | @cons o c out line ho hcovers ih =>
    obtain ⟨hend, hline⟩ := isFirstLine_cons_iff.1 h
    refine isFirstLine_cons_iff.2 ⟨?_, ih hline⟩
    rw [Bool.eq_false_iff, ne_eq, atLineEnd_cons_iff] at hend ⊢
    rintro (rfl | ⟨rfl, hstart⟩)
    · rcases ho with ho | ho
      · exact hend (.inl ho.symm)
      · exact absurd ho (by decide)
    · have hc : '\r' = c := ho.resolve_right (by decide)
      refine hend (.inr ⟨hc.symm, ?_⟩)
      rw [← head?_eq_some_iff_start, List.head?_append] at hstart ⊢
      cases hcovers with
      | nil => rwa [hhead] at hstart
      | cons ho' _ =>
        have ho' := ho'.resolve_right (by rintro rfl; simp at hstart)
        simpa [← ho'] using hstart

/-! ### The scanner of texts -/

/-- Masks a text with its line ends, and gives the mode in which a next line would start. -/
def scan (d : Dialect) (mode : Mode) : List Char → List Char × Mode
  | [] => ([], mode.endLine)
  | c :: rest =>
    if atLineEnd (c :: rest) then
      let tail := scan d (if c = '\n' then mode.endLine else mode) rest
      (c :: tail.1, tail.2)
    else
      let step := move d mode c (upToLineEnd rest)
      let tail := scan d step.mode (rest.drop step.more)
      (step.out ++ tail.1, tail.2)
termination_by text => text.length
decreasing_by all_goals simp only [List.length_drop, List.length_cons]; omega

@[simp] lemma scan_nil (d : Dialect) (mode : Mode) : scan d mode [] = ([], mode.endLine) := by
  rw [scan]

lemma scan_newline (d : Dialect) (mode : Mode) (rest : List Char) :
    scan d mode ('\n' :: rest) =
      ('\n' :: (scan d mode.endLine rest).1, (scan d mode.endLine rest).2) := by
  rw [scan, if_pos (atLineEnd_newline rest), if_pos rfl]

lemma scan_return (d : Dialect) (mode : Mode) (rest : List Char) :
    scan d mode ('\r' :: '\n' :: rest) =
      ('\r' :: (scan d mode ('\n' :: rest)).1, (scan d mode ('\n' :: rest)).2) := by
  rw [scan, if_pos (atLineEnd_return rest), if_neg (by decide)]

/-- Where `taken` stands before `tail`, the scanner in `mode` writes `out` for it and goes on in
`next`. -/
def Scans (d : Dialect) (mode next : Mode) (taken out tail : List Char) : Prop :=
  scan d mode (taken ++ tail) = (out ++ (scan d next tail).1, (scan d next tail).2)

lemma Scans.nil (mode : Mode) (tail : List Char) : Scans d mode mode [] [] tail := rfl

lemma Scans.append {mid next : Mode} {taken taken' out out' tail : List Char}
    (h : Scans d mode mid taken out (taken' ++ tail)) (h' : Scans d mid next taken' out' tail) :
    Scans d mode next (taken ++ taken') (out ++ out') tail := by
  unfold Scans at *
  rw [List.append_assoc, h, h', List.append_assoc]

/-- A step that takes what stands at the start of a text, up to the line end at most. -/
lemma Scans.of_move {next : Mode} {taken out tail : List Char} (hne : taken ≠ [])
    (hend : atLineEnd (taken ++ tail) = false)
    (hstep : ∀ c rest, taken ++ tail = c :: rest →
      move d mode c (upToLineEnd rest) = ⟨next, out, taken.length - 1⟩) :
    Scans d mode next taken out tail := by
  obtain ⟨c, rest, htext⟩ := List.exists_cons_of_ne_nil (List.append_ne_nil_of_left_ne_nil hne tail)
  rw [htext] at hend
  rw [Scans, htext, scan, if_neg (Bool.eq_false_iff.1 hend), hstep c rest htext]
  simp only [drop_eq_of_append_eq hne htext]

/-- The scanner of texts does on a first line what the scanner of lines does on it. -/
lemma scan_firstLine {line tail : List Char} (h : IsFirstLine line tail)
    (after : Mode → List Char × Mode) (hafter : ∀ mode, scan d mode tail = after mode.endLine)
    (mode : Mode) :
    scan d mode (line ++ tail) =
      ((maskLine d mode line).1 ++ (after (maskLine d mode line).2).1,
        (after (maskLine d mode line).2).2) := by
  fun_induction maskLine d mode line with
  | case1 mode => exact hafter mode
  | case2 mode c rest step masked ih =>
    obtain ⟨hend, hrest⟩ := isFirstLine_cons_iff.1 h
    have hmore : step.more ≤ rest.length := (fits_move d mode c rest).more_le
    rw [List.cons_append, scan, if_neg (Bool.eq_false_iff.1 hend), hrest.upTo]
    dsimp only
    rw [List.drop_append_of_le_length hmore, ih (hrest.drop step.more), List.append_assoc]

/-- Line ends are copied, and the mode changes there. -/
lemma scan_lineEnd {ending : List Char} (h : ending ∈ lineEnds) (d : Dialect) (mode : Mode)
    (rest : List Char) :
    scan d mode (ending ++ rest) =
      (ending ++ (scan d mode.endLine rest).1, (scan d mode.endLine rest).2) := by
  simp only [lineEnds, List.mem_cons, List.not_mem_nil, or_false] at h
  rcases h with rfl | rfl
  · exact scan_newline d mode rest
  · exact (scan_return d mode rest).trans (by rw [scan_newline]; rfl)

/-- Masking the lines of a text is masking the text and cutting it into lines. -/
lemma scan_lines (hmode : mode.endLine = mode) (text : List Char) :
    maskLines d mode (lines text) = lines (scan d mode text).1 ∧
      modeAfter d mode (lines text) = (scan d mode text).2 := by
  induction text using lines_induction generalizing mode with
  | nil =>
    rw [scan_nil, lines_nil]
    exact ⟨rfl, hmode.symm⟩
  | last line hne hfirst =>
    have hcovers := covers_maskLine d mode line
    have hscan := scan_firstLine hfirst (fun mode => ([], mode)) (scan_nil d) mode
    have hout : IsFirstLine (maskLine d mode line).1 [] := hcovers.isFirstLine hfirst .nil rfl
    have hout_ne : (maskLine d mode line).1 ≠ [] := by
      rw [← List.length_pos_iff, hcovers.length_eq, List.length_pos_iff]
      exact hne
    rw [List.append_nil] at hscan
    rw [hscan, List.append_nil, lines_of_not_mem hne hfirst.not_mem,
      lines_of_not_mem hout_ne hout.not_mem]
    exact ⟨rfl, rfl⟩
  | line first ending rest hending hfirst ih =>
    have hscan := scan_firstLine hfirst
      (fun mode => (ending ++ (scan d mode rest).1, (scan d mode rest).2))
      (scan_lineEnd hending d · rest) mode
    have hhead : ∀ masked : List Char, (ending ++ masked).head? = (ending ++ rest).head? := by
      intro masked
      cases ending with
      | nil => exact absurd hending (by decide)
      | cons c ending => rfl
    -- the masked line is the first line of what is written, so both texts are cut after it
    have hout : IsFirstLine (maskLine d mode first).1
        (ending ++ (scan d (maskLine d mode first).2 rest).1) :=
      (covers_maskLine d mode first).isFirstLine hfirst (tail_append hending _) (hhead _)
    obtain ⟨ihlines, ihmode⟩ := ih (endLine_maskLine d mode first)
    rw [hscan, hfirst.lines_eq hending, hout.lines_eq hending, ← ihlines, ← ihmode]
    exact ⟨rfl, rfl⟩

end Strata.Masking

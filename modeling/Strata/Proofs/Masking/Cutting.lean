import Strata.Proofs.Masking.WholeText

/-!
# Cutting a line at a blank

No delimiter holds a blank, so a step of the scanner that ends before a blank does not depend on
what stands behind it; only a comment up to the line end does.  A line can thus be cut at a blank
that the scanner comes to in code: the two parts are masked as they were in the line
(`maskLine_append_of_modeAt?`).  A carriage return at the end of the first part, which then belongs
to the line end, makes no difference either (`exists_maskLine_dropReturn`).  So a line feed in the
place of a blank in code cuts one masked line and leaves the others as they are (`cutAt_mask`).
-/

namespace Strata.Masking

open Strata.Text

variable {d : Dialect} {mode : Mode}

/-! ### Steps before a blank -/

section Blank

variable {c : Char} (hc : isBlank c = true) (a : Char) (line tail : List Char)

include hc

lemma commentMove_append_blank (outer : Nat) :
    commentMove d outer ((a :: line) ++ c :: tail) = commentMove d outer (a :: line) := by
  have hopen : Solid ['/', '*'] := solid_pair (by decide) (by decide)
  have hclose : Solid ['*', '/'] := solid_pair (by decide) (by decide)
  rw [commentMove, commentMove, hopen.startsWith_append hc, hclose.startsWith_append hc]

lemma literalMove_append_blank (lit : Literal) (escaped : Bool) :
    literalMove lit escaped ((a :: line) ++ c :: tail) = literalMove lit escaped (a :: line) := by
  have hclose : closes lit ((a :: line) ++ c :: tail) = closes lit (a :: line) := by
    rw [Bool.eq_iff_iff, closes_iff, closes_iff, lit.solid_closing.start_append_iff hc]
  rw [literalMove, literalMove, hclose]
  rfl

lemma literalAt?_append_blank (text : List Char) :
    literalAt? d (text ++ c :: tail) = literalAt? d text := by
  have hopening : ∀ quote hashes, (d.literal quote hashes).opening <+: text ++ c :: tail ↔
      (d.literal quote hashes).opening <+: text :=
    fun quote hashes => (Literal.solid_opening _).start_append_iff hc text tail
  cases hlit : literalAt? d text with
  | none =>
    rw [literalAt?_eq_none_iff] at hlit ⊢
    simpa only [hopening] using hlit
  | some lit =>
    obtain ⟨quote, hashes, rfl, hpermits, hopen, hlongest⟩ := opening_of_literalAt? hlit
    refine literalAt?_eq_some hpermits ((hopening quote hashes).2 hopen) ?_
    exact fun other hother h => hlongest other hother ((hopening other hashes).1 h)

/-- A step in code that starts no comment up to the line end. -/
lemma codeMove_append_blank (hd : d.Regular) (hline : ¬ d.lineComment <+: a :: line) :
    codeMove d a (line ++ c :: tail) = codeMove d a line := by
  have hopen : Solid ['/', '*'] := solid_pair (by decide) (by decide)
  have hmarker := startsWith_eq_false_iff.2 hline
  simp only [codeMove, ← List.cons_append, hd.solid_marker.startsWith_append hc,
    hopen.startsWith_append hc, literalAt?_append_blank hc, hmarker]
  rfl

/-- A step does not depend on what follows a blank, unless a comment up to the line end starts. -/
lemma move_append_blank (hd : d.Regular) (mode : Mode) :
    move d mode a (line ++ c :: tail) = move d mode a line ∨
      mode = .code ∧ d.lineComment <+: a :: line := by
  cases mode with
  | comment outer => exact .inl (commentMove_append_blank hc a line tail outer)
  | literal lit escaped => exact .inl (literalMove_append_blank hc a line tail lit escaped)
  | code =>
    by_cases hline : d.lineComment <+: a :: line
    · exact .inr ⟨rfl, hline⟩
    · exact .inl (codeMove_append_blank hc a line tail hd hline)

end Blank

/-! ### Cutting -/

/-- The mode in which the scanner of a line is after `n` of its characters; none if one of its steps
passes over that place. -/
def modeAt? (d : Dialect) : (mode : Mode) → (n : Nat) → List Char → Option Mode
  | mode, 0, _ => some mode
  | _, _ + 1, [] => none
  | mode, n + 1, c :: rest =>
    let step := move d mode c rest
    if step.more ≤ n then modeAt? d step.mode (n - step.more) (rest.drop step.more) else none
termination_by _ n _ => n
decreasing_by exact Nat.lt_succ_of_le (Nat.sub_le n _)

/-- A step to or before a place at which a blank stands is the same if the line ends there. -/
lemma move_append_of_le (hd : d.Regular) {a : Char} {line rest : List Char}
    (hrest : ∀ c ∈ rest.head?, isBlank c = true)
    (hmore : (move d mode a (line ++ rest)).more ≤ line.length) :
    move d mode a (line ++ rest) = move d mode a line := by
  cases rest with
  | nil => rw [List.append_nil]
  | cons c tail =>
    rcases move_append_blank (hrest c rfl) a line tail hd mode with h | ⟨rfl, hline⟩
    · exact h
    · -- a comment up to the line end takes the blank, too
      have hlong : d.lineComment <+: a :: (line ++ c :: tail) :=
        hline.trans (List.prefix_append (a :: line) _)
      rw [move, codeMove_lineComment hlong] at hmore
      simp only [List.length_append, List.length_cons] at hmore
      omega

/-- A line can be cut at a blank that the scanner comes to in code, or at its end. -/
lemma maskLine_append_of_modeAt? (hd : d.Regular) {line rest : List Char}
    (hrest : ∀ c ∈ rest.head?, isBlank c = true)
    (h : modeAt? d mode line.length (line ++ rest) = some .code) :
    (maskLine d mode line).2 = .code ∧
      maskLine d mode (line ++ rest) =
        ((maskLine d mode line).1 ++ (maskLine d .code rest).1, (maskLine d .code rest).2) := by
  induction hn : line.length using Nat.strong_induction_on generalizing mode line with
  | _ n ih =>
    cases line with
    | nil =>
      rw [List.length_nil, modeAt?] at h
      obtain rfl : mode = .code := Option.some.inj h
      exact ⟨by rw [maskLine_nil]; rfl, by simp⟩
    | cons a line =>
      rw [List.length_cons, List.cons_append, modeAt?] at h
      split at h
      · rename_i hmore
        have hstep := move_append_of_le hd hrest hmore
        rw [hstep] at h hmore
        rw [List.drop_append_of_le_length hmore, ← List.length_drop] at h
        have hless : (line.drop (move d mode a line).more).length < n := by
          rw [List.length_drop, ← hn, List.length_cons]
          omega
        obtain ⟨hcode, hmask⟩ := ih _ hless h rfl
        rw [List.cons_append, maskLine, maskLine, hstep]
        dsimp only
        rw [List.drop_append_of_le_length hmore, hmask, List.append_assoc]
        exact ⟨hcode, rfl⟩
      · cases h

/-- A blank in code is copied. -/
lemma maskLine_code_blank (hd : d.Regular) {c : Char} (hc : isBlank c = true) (rest : List Char) :
    maskLine d .code (c :: rest) =
      (c :: (maskLine d .code rest).1, (maskLine d .code rest).2) := by
  rw [maskLine, move, codeMove_of_not_opens (hd.not_opens_blank hc rest)]
  rfl

/-! ### Blanks at the end of a line -/

/-- A comment up to the line end takes the line. -/
lemma maskLine_lineComment {a : Char} {line : List Char} (h : d.lineComment <+: a :: line) :
    maskLine d .code (a :: line) = (spaces (line.length + 1), .code) := by
  rw [maskLine, move, codeMove_lineComment h]
  simp [Mode.endLine]

/-- At a blank the scanner takes just the blank; at the end of a line it could as well not stand
there. -/
lemma exists_move_blank (hd : d.Regular) {c : Char} (hc : isBlank c = true) (mode : Mode)
    (rest : List Char) : ∃ next out, move d mode c rest = ⟨next, [out], 0⟩ ∧
      isBlank out = true ∧ next.endLine = mode.endLine := by
  cases mode with
  | code =>
    exact ⟨.code, c, codeMove_of_not_opens (hd.not_opens_blank hc rest), hc, rfl⟩
  | comment outer => exact ⟨.comment outer, ' ', commentMove_blank d hc outer rest, by decide, rfl⟩
  | literal lit escaped =>
    exact ⟨.literal lit false, ' ', literalMove_blank hc lit escaped rest, by decide, rfl⟩

/-- A blank at the end of a line is masked alone. -/
lemma exists_maskLine_concat (hd : d.Regular) {c : Char} (hc : isBlank c = true) (mode : Mode)
    (line : List Char) : ∃ out, isBlank out = true ∧
      maskLine d mode (line ++ [c]) = ((maskLine d mode line).1 ++ [out], (maskLine d mode line).2) := by
  fun_induction maskLine d mode line with
  | case1 mode =>
    obtain ⟨next, out, hmove, hout, hnext⟩ := exists_move_blank hd hc mode []
    refine ⟨out, hout, ?_⟩
    rw [List.nil_append, maskLine, hmove]
    simp [hnext]
  | case2 mode a line step tail ih =>
    rcases move_append_blank hc a line [] hd mode with hstep | ⟨rfl, hline⟩
    · obtain ⟨out, hout, hmask⟩ := ih
      have hmore : step.more ≤ line.length := (fits_move d mode a line).more_le
      refine ⟨out, hout, ?_⟩
      rw [List.cons_append, maskLine, hstep]
      dsimp only
      rw [List.drop_append_of_le_length hmore, hmask, List.append_assoc]
    · -- the comment up to the line end takes the blank, too
      have hmask : (step.out ++ tail.1, tail.2) = (spaces (line.length + 1), .code) := by
        rw [← maskLine_lineComment hline, maskLine]
      obtain ⟨hout, hmode⟩ := Prod.mk.inj hmask
      have hlong : d.lineComment <+: a :: (line ++ [c]) := hline.trans (List.prefix_append _ _)
      refine ⟨' ', by decide, ?_⟩
      rw [hout, hmode, List.cons_append, maskLine_lineComment hlong, List.length_append,
        List.length_singleton, spaces, spaces, ← List.replicate_succ']

/-- A carriage return before a line end is masked alone. -/
lemma exists_maskLine_dropReturn (hd : d.Regular) (mode : Mode) (line : List Char) :
    ∃ ending, Blank ending ∧ maskLine d mode line =
      ((maskLine d mode (dropReturn line)).1 ++ ending, (maskLine d mode (dropReturn line)).2) := by
  by_cases hreturn : line.getLast? = some '\r'
  · obtain ⟨start, rfl⟩ := List.getLast?_eq_some_iff.1 hreturn
    obtain ⟨out, hout, hmask⟩ := exists_maskLine_concat hd (by decide : isBlank '\r' = true) mode start
    rw [dropReturn_concat]
    exact ⟨[out], List.forall_mem_singleton.2 hout, hmask⟩
  · rw [dropReturn_eq_self hreturn]
    exact ⟨[], fun _ h => absurd h List.not_mem_nil, by rw [List.append_nil]⟩

/-! ### Masked lines -/

/-- The scanner comes to the place between `before` and `after` in code. -/
def CodeAt (d : Dialect) (before after : List Char) : Prop :=
  modeAt? d (modeAfter d .code (closedLines before)) (openLine before).length
    (upToLineEnd (openLine before ++ after)) = some .code

instance (d : Dialect) (before after : List Char) : Decidable (CodeAt d before after) :=
  inferInstanceAs (Decidable (_ = _))

/-- In `broken`, the line of `lines` with the index `k` is cut in two at some blanks, which go on up
to its column `n` at least.  A second part that is empty is no line at the end of a text. -/
inductive CutAt (k n : Nat) : (lines broken : List (List Char)) → Prop where
  /-- The second part is a line. -/
  | inside {start others : List (List Char)} {first gap rest : List Char}
      (hk : start.length = k) (hgap : Blank gap) (hn : n ≤ (first ++ gap).length) :
      CutAt k n (start ++ (first ++ gap ++ rest) :: others) (start ++ first :: rest :: others)
  /-- The text ends with the blanks. -/
  | last {start : List (List Char)} {first gap : List Char}
      (hk : start.length = k) (hgap : Blank gap) (hn : n ≤ (first ++ gap).length) :
      CutAt k n (start ++ [first ++ gap]) (start ++ [first])

/-- The blank at which a line is cut, masked together with the second part. -/
lemma exists_maskLine_gap (hd : d.Regular) {c : Char} (hc : isBlank c = true)
    {more rest : List Char} (hmore : more = c :: rest ∨ more = [] ∧ rest = []) :
    ∃ gap, Blank gap ∧
      maskLine d .code more = (gap ++ (maskLine d .code rest).1, (maskLine d .code rest).2) := by
  rcases hmore with rfl | ⟨rfl, rfl⟩
  · exact ⟨[c], List.forall_mem_singleton.2 hc, maskLine_code_blank hd hc rest⟩
  · exact ⟨[], fun _ h => absurd h List.not_mem_nil, rfl⟩

/-- A line feed in the place of a blank in code cuts the masked line there. -/
lemma cutAt_mask (hd : d.Regular) {before after : List Char} {c : Char} (hc : isBlank c = true)
    (hn : c ≠ '\n') (hcode : CodeAt d before (c :: after)) :
    CutAt (closedLines before).length (openLine before).length (mask d (before ++ c :: after))
      (mask d (before ++ '\n' :: after)) := by
  have hfree := newline_notMem_openLine before
  obtain ⟨more, rest, others, hupTo, hlines, hmore, hrest⟩ := exists_lines_eq_around hfree hn after
  rw [CodeAt, hupTo] at hcode
  rw [mask, mask, lines_append before, lines_append before, hlines, lines_append_newline hfree,
    maskLines_append, maskLines_append]
  generalize modeAfter d .code (closedLines before) = mode at hcode
  generalize openLine before = line at hcode
  have hblank : ∀ w ∈ more.head?, isBlank w = true := by
    rcases hmore with rfl | ⟨rfl, -⟩
    · rintro w ⟨⟩
      exact hc
    · rintro w ⟨⟩
  -- the line is masked in three parts: what stays on it, the blanks, and what is cut off
  obtain ⟨hline, hmask⟩ := maskLine_append_of_modeAt? hd hblank hcode
  obtain ⟨ending, hending, hreturn⟩ := exists_maskLine_dropReturn hd mode line
  obtain ⟨gap, hgap, hcut⟩ := exists_maskLine_gap hd hc hmore
  have hlength := (covers_maskLine d mode line).length_eq
  rw [hreturn] at hmask hline hlength
  rw [hcut] at hmask
  have hblanks : Blank (ending ++ gap) := fun w hw =>
    (List.mem_append.1 hw).elim (hending w) (hgap w)
  have hcolumn : line.length ≤
      ((maskLine d mode (dropReturn line)).1 ++ (ending ++ gap)).length := by
    rw [← hlength]
    simp only [List.length_append]
    omega
  have hk : (maskLines d .code (closedLines before)).length = (closedLines before).length :=
    length_maskLines d .code _
  rw [maskLines, maskLines, hmask, hline]
  generalize (maskLine d mode (dropReturn line)).1 = first at hcolumn
  have hparts : ∀ second : List Char,
      first ++ ending ++ (gap ++ second) = first ++ (ending ++ gap) ++ second := by simp
  dsimp only
  rcases hrest with hafter | ⟨hafter, rfl, rfl⟩
  · rw [hafter, maskLines, hparts]
    exact .inside hk hblanks hcolumn
  · rw [hafter, maskLine_nil, hparts, List.append_nil]
    exact .last hk hblanks hcolumn

end Strata.Masking

import Strata.Proofs.Masking.Steps

/-!
# Masking masked text

Masking a second time changes nothing.  The second run reads the text that the first one wrote, so
it sees no comment, no backslash inside a literal and no hash sign around one: where the first run
is in a comment the second is in code, and where the first is in a literal the second is in the
literal with the same quotation mark and no hash signs.  That the second run opens a literal where
the first did, and nowhere else, follows from what masking writes: a space holds no delimiter apart,
and everything else was there before.
-/

namespace Strata.Masking

open Strata.Text

variable {d : Dialect}

/-- Whatever opens in covered text opened before it was covered. -/
lemma Dialect.Opens.of_covers (hd : d.Regular) {out text : List Char} (hcovers : Covers out text)
    (hopens : d.Opens out) : d.Opens text := by
  cases hopens with
  | lineComment h => exact .lineComment (hcovers.start_of_start hd.solid_marker h)
  | blockComment hblock h =>
    have hsolid : Solid ['/', '*'] := solid_pair (by decide) (by decide)
    exact .blockComment hblock (hcovers.start_of_start hsolid h)
  | literal hpermits h =>
    exact .literal hpermits (hcovers.start_of_start (Literal.solid_opening _) h)

/-! ### The second run -/

/-- The mode of a second run where the first run is in a mode. -/
inductive Shadows (d : Dialect) : (first second : Mode) → Prop where
  /-- Code stays code. -/
  | code : Shadows d .code .code
  /-- A comment has become code. -/
  | comment (outer : Nat) : Shadows d (.comment outer) .code
  /-- A literal keeps nothing but its quotation mark. -/
  | literal (lit : Literal) (escaped : Bool) :
      Shadows d (.literal lit escaped) (.literal (d.literal lit.quote 0) false)

lemma Shadows.endLine {first second : Mode} (h : Shadows d first second) :
    Shadows d first.endLine second.endLine := by
  cases h with
  | code => exact .code
  | comment outer => exact .comment outer
  | literal lit escaped =>
    unfold Mode.endLine
    dsimp only [Dialect.literal]
    split
    · exact .literal lit false
    · exact .code

/-- Where `out` stands before `tail`, the scanner in `mode` copies it and goes on in `next`. -/
def Copies (d : Dialect) (mode next : Mode) (out tail : List Char) : Prop :=
  maskLine d mode (out ++ tail) = (out ++ (maskLine d next tail).1, (maskLine d next tail).2)

lemma Copies.append {mode mid next : Mode} {out out' tail : List Char}
    (h : Copies d mode mid out (out' ++ tail)) (h' : Copies d mid next out' tail) :
    Copies d mode next (out ++ out') tail := by
  unfold Copies at *
  rw [List.append_assoc, h, h', List.append_assoc]

/-- Spaces are code like any other. -/
lemma copies_spaces (hd : d.Regular) (n : Nat) (tail : List Char) :
    Copies d .code .code (spaces n) tail := by
  induction n with
  | zero => rfl
  | succ n ih =>
    have hfirst : Copies d .code .code [' '] (spaces n ++ tail) := by
      refine maskLine_append (by simp) ?_
      rintro c rest ⟨⟩
      exact codeMove_of_not_opens (hd.not_opens_blank (by decide) _)
    exact hfirst.append ih

/-- Inside a literal without hash signs, a space is part of the literal. -/
lemma copies_literal_space (quote : Quote) (tail : List Char) :
    Copies d (.literal (d.literal quote 0) false) (.literal (d.literal quote 0) false) [' ']
      tail := by
  refine maskLine_append (by simp) ?_
  rintro c rest ⟨⟩
  exact literalMove_blank (by decide) (d.literal quote 0) false tail

/-- The quotation mark closes such a literal. -/
lemma copies_literal_close (quote : Quote) (tail : List Char) :
    Copies d (.literal (d.literal quote 0) false) .code quote.delimiter tail := by
  refine maskLine_append (List.length_pos_iff.1 quote.length_delimiter_pos) ?_
  intro c rest hline
  have hclose : closes (d.literal quote 0) (c :: rest) = true := by
    rw [closes_iff, ← hline, Literal.closing]
    simp [Dialect.literal]
  have hslash : c ≠ '\\' := Quote.ne_backslash_of_start hline
  rw [move, literalMove, if_neg (by simp), if_neg (by simp [hslash]), if_pos hclose]
  simp [Dialect.literal, spaces]

/-- The longest quotation mark opens such a literal. -/
lemma copies_code_open (hd : d.Regular) {quote : Quote} (hallowed : d.allows quote = true)
    {tail : List Char} (hlongest : d.Longest quote 0 (quote.delimiter ++ tail)) :
    Copies d .code (.literal (d.literal quote 0) false) quote.delimiter tail := by
  refine maskLine_append (List.length_pos_iff.1 quote.length_delimiter_pos) ?_
  intro c rest hline
  have hpermits : d.Permits quote 0 := ⟨hallowed, fun h => absurd h (lt_irrefl 0)⟩
  have hopening : (d.literal quote 0).opening <+: c :: rest := by
    rw [← hline]
    exact List.prefix_append _ _
  have hlit : literalAt? d (c :: rest) = some (d.literal quote 0) :=
    literalAt?_eq_some hpermits hopening (hline ▸ hlongest)
  have hmarker : ¬ d.lineComment <+: c :: rest := by
    rw [← hline]
    exact hd.not_lineComment_delimiter quote tail
  rw [move, codeMove_literal hmarker hlit]
  simp [Dialect.literal, spaces]

/-- Covering the text after a quotation mark makes no longer one of it. -/
lemma longest_of_covers {quote : Quote} {hashes : Nat} {out text : List Char}
    (hcovers : Covers out text)
    (h : d.Longest quote hashes ((d.literal quote hashes).opening ++ text)) :
    d.Longest quote 0 (quote.delimiter ++ out) := by
  intro other hother hopen
  have hstart : other.delimiter <+: quote.delimiter ++ text :=
    ((Covers.refl quote.delimiter).append hcovers).start_of_start
      other.solid_delimiter hopen
  have htext : (d.literal quote hashes).opening ++ text =
      List.replicate hashes '#' ++ (quote.delimiter ++ text) := List.append_assoc ..
  refine h other hother ?_
  rw [htext]
  exact opening_prefix_iff.2 hstart

/-- The second run copies what a step of the first run writes. -/
def Repeated (d : Dialect) (second : Mode) (step : Move) (tail : List Char) : Prop :=
  ∃ next, Shadows d step.mode next ∧ Copies d second next step.out tail

lemma repeated_codeMove (hd : d.Regular) (c : Char) {rest tail : List Char}
    (htail : Covers tail (rest.drop (codeMove d c rest).more)) :
    Repeated d .code (codeMove d c rest) tail := by
  rcases codeMove_cases d c rest with
    ⟨-, h⟩ | ⟨-, h⟩ | ⟨quote, hashes, -, hpermits, ⟨body, hbody⟩, hlongest, h⟩ | ⟨hopens, h⟩
  · rw [h]
    exact ⟨.code, .code, copies_spaces hd _ tail⟩
  · rw [h]
    exact ⟨.code, .comment 0, copies_spaces hd _ tail⟩
  · rw [h] at htail ⊢
    have hdrop : rest.drop (hashes + quote.delimiter.length - 1) = body := by
      rw [← d.length_opening]
      exact drop_eq_of_append_eq (Literal.opening_ne_nil _) hbody
    rw [← hbody] at hlongest
    -- the hash signs are spaces now, and the quotation mark opens a literal without them
    refine ⟨.literal (d.literal quote 0) false, .literal _ false, ?_⟩
    exact (copies_spaces hd hashes _).append
      (copies_code_open hd hpermits.allowed (longest_of_covers (hdrop ▸ htail) hlongest))
  · rw [h] at htail ⊢
    refine ⟨.code, .code, maskLine_append (by simp) ?_⟩
    rintro a more ⟨⟩
    refine codeMove_of_not_opens fun hopen => hopens (hopen.of_covers hd ?_)
    exact .cons (.inl rfl) htail

lemma repeated_commentMove (hd : d.Regular) (outer : Nat) (text tail : List Char) :
    Repeated d .code (commentMove d outer text) tail := by
  unfold commentMove
  split_ifs
  · exact ⟨.code, .comment (outer + 1), copies_spaces hd 2 tail⟩
  · refine ⟨.code, ?_, copies_spaces hd 2 tail⟩
    cases outer with
    | zero => exact .code
    | succ outer => exact .comment outer
  · exact ⟨.code, .comment outer, copies_spaces hd 1 tail⟩

lemma repeated_literalMove (hd : d.Regular) (lit : Literal) (escaped : Bool)
    (text tail : List Char) :
    Repeated d (.literal (d.literal lit.quote 0) false) (literalMove lit escaped text) tail := by
  have hspace := copies_literal_space (d := d) lit.quote tail
  unfold literalMove
  split_ifs
  · exact ⟨_, .literal lit false, hspace⟩
  · exact ⟨_, .literal lit true, hspace⟩
  · exact ⟨.code, .code, (copies_literal_close lit.quote _).append (copies_spaces hd _ tail)⟩
  · exact ⟨_, .literal lit false, hspace⟩

lemma repeated_move (hd : d.Regular) {first second : Mode} (h : Shadows d first second) (c : Char)
    {rest tail : List Char} (htail : Covers tail (rest.drop (move d first c rest).more)) :
    Repeated d second (move d first c rest) tail := by
  cases h with
  | code => exact repeated_codeMove hd c htail
  | comment outer => exact repeated_commentMove hd outer _ tail
  | literal lit escaped => exact repeated_literalMove hd lit escaped _ tail

/-- Over the line that the first run has written, the second run writes the same line again, and
ends in the mode that belongs to the mode of the first. -/
lemma maskLine_maskLine (hd : d.Regular) {first second : Mode} (h : Shadows d first second)
    (line : List Char) :
    ∃ last, maskLine d second (maskLine d first line).1 = ((maskLine d first line).1, last) ∧
      Shadows d (maskLine d first line).2 last := by
  fun_induction maskLine d first line generalizing second with
  | case1 mode => exact ⟨second.endLine, maskLine_nil d second, h.endLine⟩
  | case2 mode c rest step tail =>
    rename_i ih
    -- behind the step, the second run sees what the first run made of the rest of the line
    obtain ⟨next, hnext, hcopies⟩ := repeated_move hd h c (covers_maskLine d step.mode _)
    obtain ⟨last, hlast, hshadows⟩ := ih hnext
    refine ⟨last, ?_, hshadows⟩
    rw [hcopies, hlast]

/-- The same over lines. -/
lemma maskLines_maskLines (hd : d.Regular) {first second : Mode} (h : Shadows d first second)
    (lines : List (List Char)) :
    maskLines d second (maskLines d first lines) = maskLines d first lines := by
  induction lines generalizing first second with
  | nil => rfl
  | cons line rest ih =>
    obtain ⟨last, hlast, hshadows⟩ := maskLine_maskLine hd h line
    simp only [maskLines, hlast, ih hshadows]

/-- Masking lines that have been masked changes nothing, whatever the lines are. -/
theorem maskLines_idempotent (hd : d ∈ Dialect.known) (lines : List (List Char)) :
    maskLines d .code (maskLines d .code lines) = maskLines d .code lines :=
  maskLines_maskLines (Dialect.regular_of_mem_known hd) .code lines

/-- A fenced literal that holds quotes, a literal that its line ends, nested comments, and a fenced
literal over two lines that closes only where its hash sign follows. -/
def brokenLines : List (List Char) :=
  ["let a = ##\"x \"# \\ /* \"## + \"y\\".toList, "/* b /* */ \"\"\" # \"".toList,
    "*/ '#\"\"\" // \"\"".toList, "\"\"\"\"# c".toList]

theorem maskLines_idempotent_brokenLines :
    Dialect.swift ∈ Dialect.known ∧
      maskLines .swift .code brokenLines =
        ["let a =   \"          \"   + \"  ".toList, "                  ".toList,
          "   ' \"\"\"      ".toList, " \"\"\"  c".toList] ∧
      maskLines .swift .code (maskLines .swift .code brokenLines) =
        maskLines .swift .code brokenLines :=
  ⟨by decide, by decide +kernel, maskLines_idempotent (by decide) brokenLines⟩

end Strata.Masking

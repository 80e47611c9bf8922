import Strata.Proofs.Masking.WholeText

/-!
# Sources made of tokens

A source is a sequence of tokens: code, comments up to the line end, block comments that hold
further block comments, and literals.  Written out one after another, with nothing between them
that reads as a delimiter by accident, they are masked token by token: code and quotation marks
stay, and every other character but those of a line end becomes a space.

What follows a token matters to whether it is well formed: code that ends in a slash must not be
followed by a comment, and an empty literal must not be followed by another quotation mark.  The
conditions on a token are therefore stated about the token and the text after it.

Whether a token is well formed is a matter of the language, not of the scanner, and the two do not
agree on where every literal ends.  A raw literal of Kotlin may end in quotation marks, of which the
last three close it, and in a literal of Swift with hash signs a backslash with as many hash signs
escapes the next character.  The scanner takes the first place that looks like the end
(`Token.ClosedAtEnd` says that there is none before).
-/

namespace Strata.Masking

open Strata.Text

/-! ### Tokens -/

/-- The inside of a block comment. -/
inductive CommentBody where
  /-- Its end. -/
  | done
  /-- A character of the comment, and what follows it. -/
  | char (c : Char) (rest : CommentBody)
  /-- A comment inside, and what follows it. -/
  | nested (inner rest : CommentBody)
deriving DecidableEq, Repr

/-- How the inside of a block comment is written, together with the end of the comment. -/
def CommentBody.source : CommentBody → List Char
  | done => ['*', '/']
  | char c rest => c :: rest.source
  | nested inner rest => '/' :: '*' :: (inner.source ++ rest.source)

/-- A character of a literal, or a character that is escaped. -/
inductive Piece where
  /-- A character that stands for itself. -/
  | plain (c : Char)
  /-- A character after a backslash and the hash signs of the literal. -/
  | escaped (c : Char)
deriving DecidableEq, Repr

namespace Piece

/-- What stands before the character of a piece in a literal with this number of hash signs. -/
def mark (hashes : Nat) : Piece → List Char
  | plain _ => []
  | escaped _ => '\\' :: List.replicate hashes '#'

/-- The character that a piece is for. -/
def char : Piece → Char
  | plain c | escaped c => c

/-- How the pieces of a literal with this number of hash signs are written. -/
def source (hashes : Nat) : List Piece → List Char
  | [] => []
  | piece :: rest => piece.mark hashes ++ piece.char :: source hashes rest

end Piece

/-- A token of a source. -/
inductive Token where
  /-- Code. -/
  | code (text : List Char)
  /-- A comment up to the line end, without the mark that starts it. -/
  | lineComment (text : List Char)
  /-- A block comment. -/
  | blockComment (body : CommentBody)
  /-- A literal with its quotation mark and the number of its hash signs. -/
  | literal (quote : Quote) (hashes : Nat) (body : List Piece)
deriving DecidableEq, Repr

namespace Token

/-- How a token is written. -/
def source (d : Dialect) : Token → List Char
  | code text => text
  | lineComment text => d.lineComment ++ text
  | blockComment body => '/' :: '*' :: body.source
  | literal quote hashes body =>
    (d.literal quote hashes).opening ++
      (Piece.source hashes body ++ (d.literal quote hashes).closing)

end Token

/-- What masking makes of a hidden character: it stays if it belongs to a line end. -/
def hideAt (c : Char) (rest : List Char) : Char :=
  if atLineEnd (c :: rest) then c else ' '

/-- A text with everything but its line ends replaced by spaces. -/
def hide : List Char → List Char
  | [] => []
  | c :: rest => hideAt c rest :: hide rest

/-- How a token is masked. -/
def Token.masked (d : Dialect) : Token → List Char
  | code text => text
  | lineComment text => spaces (d.lineComment.length + text.length)
  | blockComment body => hide ('/' :: '*' :: body.source)
  | literal quote hashes body =>
    spaces hashes ++ quote.delimiter ++ (hide (Piece.source hashes body) ++
      (quote.delimiter ++ spaces hashes))

/-! ### Well-formed tokens -/

/-- Nothing opens inside a text that is followed by `after`, and nothing opens across its end. -/
def Unopened (d : Dialect) (after : List Char) : List Char → Prop
  | [] => True
  | c :: rest => ¬ d.Opens (c :: (rest ++ after)) ∧ Unopened d after rest

/-- The characters of a block comment start no comment and end none. -/
def CommentBody.WellFormed : CommentBody → Prop
  | done => True
  | char c rest =>
    ¬ ['/', '*'] <+: c :: rest.source ∧ ¬ ['*', '/'] <+: c :: rest.source ∧ rest.WellFormed
  | nested inner rest => inner.WellFormed ∧ rest.WellFormed

/-- Whether a backslash means nothing between these quotation marks, and of several quotation marks
in a row the last ones close the literal. -/
def Dialect.isVerbatim (d : Dialect) (quote : Quote) : Bool :=
  d.rawTripleQuotes && quote == .tripleDouble

/-- The pieces of a literal escape what they say they escape, and do not close it.  Quotation marks
at the end of a verbatim literal belong to it. -/
def Piece.WellFormed (d : Dialect) (quote : Quote) (hashes : Nat) : List Piece → Prop
  | [] => True
  | plain c :: rest =>
    (d.isVerbatim quote = false → ¬ '\\' :: List.replicate hashes '#' <+: c :: source hashes rest) ∧
      ((d.literal quote hashes).closing <+:
          c :: (source hashes rest ++ (d.literal quote hashes).closing) →
        d.isVerbatim quote = true ∧ ∀ a ∈ c :: source hashes rest, a = '"') ∧
      WellFormed d quote hashes rest
  | escaped _ :: rest => d.isVerbatim quote = false ∧ WellFormed d quote hashes rest

/-- A literal of the language: it does not close early, stays on its line unless its quotation mark
allows more, and neither opens nor closes with a longer row of quotation marks. -/
structure LiteralWellFormed (d : Dialect) (quote : Quote) (hashes : Nat) (body : List Piece)
    (after : List Char) : Prop where
  /-- The language has such literals. -/
  permits : d.Permits quote hashes
  /-- It does not close early. -/
  unclosed : Piece.WellFormed d quote hashes body
  /-- It stays on its line. -/
  oneLine : quote.spansLines = false → '\n' ∉ Piece.source hashes body
  /-- It does not open with a longer quotation mark. -/
  longest : d.Longest quote hashes ((Token.literal quote hashes body).source d ++ after)
  /-- A verbatim literal closes with the last quotation marks of the row. -/
  last : d.isVerbatim quote = true → after.head? ≠ some '"'

/-- A token of the language that is read as such where `after` follows it. -/
def Token.WellFormed (d : Dialect) (after : List Char) : Token → Prop
  | code text => Unopened d after text
  | lineComment text => IsFirstLine text after
  | blockComment body => d.blockComments = true ∧ body.WellFormed
  | literal quote hashes body => LiteralWellFormed d quote hashes body after

namespace Tokens

/-- How tokens are written. -/
def source (d : Dialect) (tokens : List Token) : List Char :=
  tokens.flatMap (Token.source d)

/-- How tokens are masked. -/
def masked (d : Dialect) (tokens : List Token) : List Char :=
  tokens.flatMap (Token.masked d)

/-- Tokens of the language that are read as such one after another. -/
def WellFormed (d : Dialect) : List Token → Prop
  | [] => True
  | token :: rest => token.WellFormed d (source d rest) ∧ WellFormed d rest

end Tokens

/-! ### Where the scanner closes a literal -/

/-- Whether the scanner passes over the character of a piece without looking at it: it knows the
backslash in literals without hash signs only. -/
def Piece.isSkipped (lit : Literal) : Piece → Bool
  | plain _ => false
  | escaped _ => !lit.raw

/-- Nothing that the scanner takes for the end of the literal stands before its end. -/
def Piece.ClosedAtEnd (lit : Literal) : List Piece → Prop
  | [] => True
  | piece :: rest =>
    (piece.isSkipped lit = false →
        ¬ lit.closing <+: piece.char :: (source lit.hashes rest ++ lit.closing)) ∧
      ClosedAtEnd lit rest

/-- If the token is a literal, then the scanner closes it at its end. -/
def Token.ClosedAtEnd (d : Dialect) : Token → Prop
  | literal quote hashes body => Piece.ClosedAtEnd (d.literal quote hashes) body
  | code _ | lineComment _ | blockComment _ => True

/-! ### Well-formedness can be evaluated -/

section Decidable

variable (d : Dialect)

instance (quote : Quote) (hashes : Nat) : Decidable (d.Permits quote hashes) :=
  decidable_of_iff (d.allows quote = true ∧
      (0 < hashes → d.hashFences = true ∧ quote.isDouble = true))
    ⟨fun h => ⟨h.1, h.2⟩, fun h => ⟨h.allowed, h.fenced⟩⟩

instance (quote : Quote) (hashes : Nat) (text : List Char) :
    Decidable (d.Longest quote hashes text) :=
  decidable_of_iff (∀ other ∈ [Quote.double, .single, .tripleDouble, .tripleSingle],
      d.allows other = true → (d.literal other hashes).opening <+: text →
        other.delimiter.length ≤ quote.delimiter.length)
    ⟨fun h other => h other (by cases other <;> decide), fun h other _ => h other⟩

instance (text : List Char) : Decidable (d.Opens text) :=
  decidable_of_iff (d.lineComment <+: text ∨ d.blockComments = true ∧ ['/', '*'] <+: text ∨
      literalAt? d text ≠ none)
    d.opens_iff.symm

instance Unopened.decidable (after : List Char) :
    (text : List Char) → Decidable (Unopened d after text)
  | [] => .isTrue trivial
  | c :: rest =>
    have := Unopened.decidable after rest
    inferInstanceAs (Decidable (¬ d.Opens (c :: (rest ++ after)) ∧ Unopened d after rest))

instance CommentBody.WellFormed.decidable : (body : CommentBody) → Decidable body.WellFormed
  | .done => .isTrue trivial
  | .char c rest =>
    have := CommentBody.WellFormed.decidable rest
    inferInstanceAs (Decidable (¬ ['/', '*'] <+: c :: rest.source ∧
      ¬ ['*', '/'] <+: c :: rest.source ∧ rest.WellFormed))
  | .nested inner rest =>
    have := CommentBody.WellFormed.decidable inner
    have := CommentBody.WellFormed.decidable rest
    inferInstanceAs (Decidable (inner.WellFormed ∧ rest.WellFormed))

instance Piece.WellFormed.decidable (quote : Quote) (hashes : Nat) :
    (body : List Piece) → Decidable (Piece.WellFormed d quote hashes body)
  | [] => .isTrue trivial
  | .plain c :: rest =>
    have := Piece.WellFormed.decidable quote hashes rest
    have : Decidable (∀ a ∈ c :: Piece.source hashes rest, a = '"') := List.decidableBAll _ _
    inferInstanceAs (Decidable ((d.isVerbatim quote = false →
        ¬ '\\' :: List.replicate hashes '#' <+: c :: Piece.source hashes rest) ∧
      ((d.literal quote hashes).closing <+:
          c :: (Piece.source hashes rest ++ (d.literal quote hashes).closing) →
        d.isVerbatim quote = true ∧ ∀ a ∈ c :: Piece.source hashes rest, a = '"') ∧
      Piece.WellFormed d quote hashes rest))
  | .escaped _ :: rest =>
    have := Piece.WellFormed.decidable quote hashes rest
    inferInstanceAs (Decidable (d.isVerbatim quote = false ∧ Piece.WellFormed d quote hashes rest))

instance Piece.ClosedAtEnd.decidable (lit : Literal) :
    (body : List Piece) → Decidable (Piece.ClosedAtEnd lit body)
  | [] => .isTrue trivial
  | piece :: rest =>
    have := Piece.ClosedAtEnd.decidable lit rest
    inferInstanceAs (Decidable ((piece.isSkipped lit = false →
        ¬ lit.closing <+: piece.char :: (Piece.source lit.hashes rest ++ lit.closing)) ∧
      Piece.ClosedAtEnd lit rest))

instance : (token : Token) → Decidable (token.ClosedAtEnd d)
  | .literal quote hashes body =>
    inferInstanceAs (Decidable (Piece.ClosedAtEnd (d.literal quote hashes) body))
  | .code _ | .lineComment _ | .blockComment _ => .isTrue trivial

instance (quote : Quote) (hashes : Nat) (body : List Piece) (after : List Char) :
    Decidable (LiteralWellFormed d quote hashes body after) :=
  decidable_of_iff (d.Permits quote hashes ∧ Piece.WellFormed d quote hashes body ∧
      (quote.spansLines = false → '\n' ∉ Piece.source hashes body) ∧
      d.Longest quote hashes ((Token.literal quote hashes body).source d ++ after) ∧
      (d.isVerbatim quote = true → after.head? ≠ some '"'))
    ⟨fun h => ⟨h.1, h.2.1, h.2.2.1, h.2.2.2.1, h.2.2.2.2⟩,
      fun h => ⟨h.permits, h.unclosed, h.oneLine, h.longest, h.last⟩⟩

instance Token.WellFormed.decidable (after : List Char) :
    (token : Token) → Decidable (token.WellFormed d after)
  | .code text => inferInstanceAs (Decidable (Unopened d after text))
  | .lineComment text => inferInstanceAs (Decidable (IsFirstLine text after))
  | .blockComment body => inferInstanceAs (Decidable (d.blockComments = true ∧ body.WellFormed))
  | .literal quote hashes body =>
    inferInstanceAs (Decidable (LiteralWellFormed d quote hashes body after))

instance Tokens.WellFormed.decidable :
    (tokens : List Token) → Decidable (Tokens.WellFormed d tokens)
  | [] => .isTrue trivial
  | token :: rest =>
    have := Tokens.WellFormed.decidable rest
    inferInstanceAs (Decidable (token.WellFormed d (Tokens.source d rest) ∧
      Tokens.WellFormed d rest))

end Decidable

/-! ### Hidden text -/

/-- Whether a character belongs to a line end is seen from the next one. -/
lemma hideAt_congr {c : Char} {rest rest' : List Char} (h : rest.head? = rest'.head?) :
    hideAt c rest = hideAt c rest' := by
  rw [hideAt, hideAt, atLineEnd_cons_congr h]

/-- Text that does not start with a line feed does not change what is hidden before it. -/
lemma hideAt_append {c : Char} {rest tail : List Char} (h : tail.head? ≠ some '\n') :
    hideAt c (rest ++ tail) = hideAt c rest := by
  cases rest with
  | cons a rest => exact hideAt_congr rfl
  | nil =>
    have hend : atLineEnd (c :: tail) = atLineEnd [c] := by
      rw [Bool.eq_iff_iff, atLineEnd_cons_iff, atLineEnd_cons_iff, ← head?_eq_some_iff_start,
        ← head?_eq_some_iff_start]
      simp [h]
    rw [List.nil_append, hideAt, hideAt, hend]

/-- Text is hidden part by part if the second part starts with no line feed. -/
lemma hide_append_of_head {text tail : List Char} (h : tail.head? ≠ some '\n') :
    hide (text ++ tail) = hide text ++ hide tail := by
  induction text with
  | nil => rfl
  | cons c text ih => rw [List.cons_append, hide, hide, hideAt_append h, ih, List.cons_append]

/-- Text is hidden part by part if the first part does not end with a carriage return. -/
lemma hide_append {text tail : List Char} (h : text.getLast? ≠ some '\r') :
    hide (text ++ tail) = hide text ++ hide tail := by
  induction text with
  | nil => rfl
  | cons c text ih =>
    rw [List.cons_append, hide, hide, List.cons_append]
    cases text with
    | nil =>
      have hc : c ≠ '\r' := fun hc => h (by rw [hc]; rfl)
      have hend : hideAt c tail = hideAt c [] := by
        by_cases hn : c = '\n'
        · simp [hideAt, hn]
        · simp [hideAt, atLineEnd_cons_eq_false hn hc]
      rw [List.nil_append, hend]
      rfl
    | cons a text =>
      have hhead : hideAt c (a :: text ++ tail) = hideAt c (a :: text) := hideAt_congr rfl
      rw [ih (by simpa [List.getLast?_cons_cons] using h), hhead]

lemma hide_cons_of_ne {c : Char} (hn : c ≠ '\n') (hr : c ≠ '\r') (rest : List Char) :
    hide (c :: rest) = ' ' :: hide rest := by
  rw [hide, hideAt, atLineEnd_cons_eq_false hn hr, if_neg (by simp)]

/-- A text without line ends is hidden by as many spaces. -/
lemma hide_free_append {text : List Char} (h : ∀ c ∈ text, c ≠ '\n' ∧ c ≠ '\r')
    (tail : List Char) : hide (text ++ tail) = spaces text.length ++ hide tail := by
  induction text with
  | nil => rfl
  | cons c text ih =>
    obtain ⟨⟨hn, hr⟩, htext⟩ := List.forall_mem_cons.1 h
    rw [List.cons_append, hide_cons_of_ne hn hr, ih htext]
    rfl

/-! ### The scanner on line ends -/

variable {d : Dialect} {mode : Mode}

/-- A character of a line end is copied, in a mode that goes on in the next line. -/
lemma scans_lineEnd (hmode : mode.endLine = mode) {c : Char} {tail : List Char}
    (h : atLineEnd (c :: tail) = true) : Scans d mode mode [c] [c] tail := by
  rcases atLineEnd_cons_iff.1 h with rfl | ⟨rfl, rest, rfl⟩
  · have hscan := scan_newline d mode tail
    rw [hmode] at hscan
    exact hscan
  · exact scan_return d mode rest

/-- A step on a single character that belongs to no line end. -/
lemma scans_single {next : Mode} {c out : Char} {tail : List Char}
    (hend : atLineEnd (c :: tail) = false)
    (hstep : move d mode c (upToLineEnd tail) = ⟨next, [out], 0⟩) :
    Scans d mode next [c] [out] tail := by
  refine Scans.of_move (by simp) hend ?_
  rintro a rest ⟨⟩
  exact hstep

/-- A step on characters none of which belongs to a line end. -/
lemma scans_start {next : Mode} {taken out tail : List Char} (hne : taken ≠ [])
    (hfree : ∀ c ∈ taken, c ≠ '\n' ∧ c ≠ '\r')
    (hstep : ∀ c rest, taken ++ upToLineEnd tail = c :: rest →
      move d mode c rest = ⟨next, out, taken.length - 1⟩) :
    Scans d mode next taken out tail := by
  obtain ⟨a, more, rfl⟩ := List.exists_cons_of_ne_nil hne
  obtain ⟨hn, hr⟩ := hfree a List.mem_cons_self
  have hmore : upToLineEnd (more ++ tail) = more ++ upToLineEnd tail :=
    upToLineEnd_append (fun c hc => hfree c (List.mem_cons_of_mem _ hc)) tail
  refine Scans.of_move hne (atLineEnd_cons_eq_false hn hr _) fun c rest htext => ?_
  obtain ⟨rfl, rfl⟩ := List.cons.inj htext
  exact hmore ▸ hstep _ _ rfl

/-! ### The scanner on code and comments -/

lemma scans_code {after text : List Char} (h : Unopened d after text) :
    Scans d .code .code text text after := by
  induction text with
  | nil => exact Scans.nil .code after
  | cons c text ih =>
    obtain ⟨hopens, htext⟩ := h
    have hc : Scans d .code .code [c] [c] (text ++ after) := by
      by_cases hend : atLineEnd (c :: (text ++ after)) = true
      · exact scans_lineEnd rfl hend
      · refine scans_single (Bool.eq_false_iff.2 hend) (codeMove_of_not_opens fun hopen => ?_)
        -- what opens before the line end opens in the whole text
        exact hopens (hopen.mono (List.cons_prefix_cons.2 ⟨rfl, upToLineEnd_prefix _⟩))
    exact hc.append (ih htext)

/-- A comment up to the line end is hidden with its mark. -/
lemma scans_lineComment (hd : d.Regular) {text after : List Char} (h : IsFirstLine text after) :
    Scans d .code .code (d.lineComment ++ text) (spaces (d.lineComment.length + text.length))
      after := by
  obtain ⟨a, more, hmarker⟩ := List.exists_cons_of_ne_nil hd.marker_ne_nil
  have hfree : ∀ c ∈ d.lineComment, c ≠ '\n' ∧ c ≠ '\r' := by
    rcases hd.marker with h | h <;> rw [h] <;> simp
  rw [hmarker] at hfree ⊢
  -- what the step sees behind the first character is the rest of the mark and the comment
  have hup : upToLineEnd (more ++ (text ++ after)) = more ++ text := by
    rw [upToLineEnd_append fun c hc => hfree c (List.mem_cons_of_mem _ hc), h.upTo]
  obtain ⟨hn, hr⟩ := hfree a List.mem_cons_self
  refine Scans.of_move (by simp) (atLineEnd_cons_eq_false hn hr _) fun c rest htext => ?_
  obtain ⟨rfl, rfl⟩ := List.cons.inj htext
  have hstart : d.lineComment <+: a :: (more ++ text) := by
    rw [hmarker]
    exact List.prefix_append _ _
  have hstep := codeMove_lineComment hstart
  rw [← hup] at hstep
  simpa [move, hup, Nat.add_right_comm] using hstep

/-- A delimiter that does not stand at the start of a text does not stand there before a line end
either, whatever follows the text. -/
lemma not_start_upToLineEnd {start text : List Char} {c : Char} (h : ¬ start <+: c :: text)
    (hlength : start.length ≤ (c :: text).length) (tail : List Char) :
    ¬ start <+: c :: upToLineEnd (text ++ tail) := by
  intro hstart
  have hlong : start <+: (c :: text) ++ tail :=
    hstart.trans (List.cons_prefix_cons.2 ⟨rfl, upToLineEnd_prefix _⟩)
  exact h (List.prefix_of_prefix_length_le hlong (List.prefix_append _ _) hlength)

/-- A hidden character, in a mode that goes on in the next line if the character ends a line. -/
lemma scans_hideAt {next : Mode} {c : Char} {tail : List Char}
    (hend : atLineEnd (c :: tail) = true → Scans d mode next [c] [c] tail)
    (hstep : move d mode c (upToLineEnd tail) = ⟨next, [' '], 0⟩) :
    Scans d mode next [c] [hideAt c tail] tail := by
  by_cases hline : atLineEnd (c :: tail) = true
  · rw [hideAt, if_pos hline]
    exact hend hline
  · rw [hideAt, if_neg hline]
    exact scans_single (Bool.eq_false_iff.2 hline) hstep

lemma CommentBody.two_le_length (body : CommentBody) : 2 ≤ body.source.length := by
  induction body with
  | done => exact Nat.le_refl 2
  | char c rest ih => exact Nat.le_succ_of_le ih
  | nested inner rest _ _ => simp [source]

lemma CommentBody.getLast?_source (body : CommentBody) : body.source.getLast? = some '/' := by
  have hlast : ∀ {text : List Char} (start : List Char), text.getLast? = some '/' →
      (start ++ text).getLast? = some '/' := by
    intro text start h
    simp [List.getLast?_append, h]
  induction body with
  | done => rfl
  | char c rest ih => exact hlast [c] ih
  | nested inner rest _ ih => exact hlast (['/', '*'] ++ inner.source) ih

/-- A block comment is hidden from its inside on, with the comments in it. -/
lemma scans_comment (hd : d.nestedComments = true) {body : CommentBody} (h : body.WellFormed)
    (outer : Nat) (tail : List Char) :
    Scans d (.comment outer) (.leaveComment outer) body.source (hide body.source) tail := by
  induction body generalizing outer tail with
  | done =>
    refine scans_start (by simp [CommentBody.source]) (by simp [CommentBody.source]) ?_
    rintro c rest ⟨⟩
    change commentMove d outer _ = _
    rw [commentMove, hd]
    rfl
  | char c rest ih =>
    obtain ⟨hopen, hclose, hrest⟩ := h
    have hlength := rest.two_le_length
    have hhide : hideAt c (rest.source ++ tail) = hideAt c rest.source := by
      have hpos : 0 < rest.source.length := by omega
      obtain ⟨a, more, hsource⟩ := List.exists_cons_of_length_pos hpos
      exact hideAt_congr (by rw [hsource]; rfl)
    have hc : Scans d (.comment outer) (.comment outer) [c] [hideAt c rest.source]
        (rest.source ++ tail) := by
      rw [← hhide]
      refine scans_hideAt (scans_lineEnd rfl) ?_
      have hopen := startsWith_eq_false_iff.2
        (not_start_upToLineEnd hopen (by simp; omega) tail)
      have hclose := startsWith_eq_false_iff.2
        (not_start_upToLineEnd hclose (by simp; omega) tail)
      simp [move, commentMove, hopen, hclose, spaces]
    exact hc.append (ih hrest outer tail)
  | nested inner rest ihinner ihrest =>
    obtain ⟨hinner, hrest⟩ := h
    have hopen : Scans d (.comment outer) (.comment (outer + 1)) ['/', '*'] [' ', ' ']
        ((inner.source ++ rest.source) ++ tail) := by
      refine scans_start (by simp) (by simp) ?_
      rintro c text ⟨⟩
      simp [move, commentMove, hd, spaces, List.replicate]
    -- the inner comment ends with a slash, so no line end is cut in two behind it
    have hhide : hide ('/' :: '*' :: (inner.source ++ rest.source)) =
        [' ', ' '] ++ (hide inner.source ++ hide rest.source) := by
      rw [hide_cons_of_ne (by decide) (by decide), hide_cons_of_ne (by decide) (by decide),
        hide_append (by rw [inner.getLast?_source]; decide)]
      rfl
    rw [CommentBody.source, hhide]
    exact hopen.append ((ihinner hinner (outer + 1) (rest.source ++ tail)).append
      (ihrest hrest outer tail))

lemma scans_blockComment (hd : d.Regular) (hblock : d.blockComments = true) {body : CommentBody}
    (h : body.WellFormed) (tail : List Char) :
    Scans d .code .code ('/' :: '*' :: body.source) (hide ('/' :: '*' :: body.source)) tail := by
  have hopen : Scans d .code (.comment 0) ['/', '*'] [' ', ' '] (body.source ++ tail) := by
    refine scans_start (by simp) (by simp) ?_
    rintro c text ⟨⟩
    refine codeMove_blockComment hblock ?_ (List.prefix_append ['/', '*'] _)
    rcases hd.marker with h | h <;> rw [h] <;> simp
  rw [hide_cons_of_ne (by decide) (by decide), hide_cons_of_ne (by decide) (by decide)]
  exact hopen.append (scans_comment (hd.nested hblock) h 0 tail)

/-! ### The scanner on literals -/

lemma Literal.opening_free (lit : Literal) : ∀ c ∈ lit.opening, c ≠ '\n' ∧ c ≠ '\r' := by
  intro c hc
  rcases List.mem_append.1 hc with hc | hc
  · rw [(List.mem_replicate.1 hc).2]
    decide
  · rcases Quote.mem_delimiter hc with rfl | rfl <;> decide

lemma Literal.closing_free (lit : Literal) : ∀ c ∈ lit.closing, c ≠ '\n' ∧ c ≠ '\r' := by
  intro c hc
  refine lit.opening_free c ?_
  rw [closing, List.mem_append] at hc
  rw [opening, List.mem_append]
  exact hc.symm

/-- The opening of a literal: the hash signs are hidden, the quotation mark stays. -/
lemma scans_opening (hd : d.Regular) {quote : Quote} {hashes : Nat}
    (hpermits : d.Permits quote hashes) {tail : List Char}
    (hlongest : d.Longest quote hashes ((d.literal quote hashes).opening ++ tail)) :
    Scans d .code (.literal (d.literal quote hashes) false) (d.literal quote hashes).opening
      (spaces hashes ++ quote.delimiter) tail := by
  refine scans_start (Literal.opening_ne_nil _) (Literal.opening_free _) fun c rest htext => ?_
  -- the step sees no more than the line, so a longer mark there would stand in the whole text
  have hlongest : d.Longest quote hashes (c :: rest) := by
    intro other hother hstart
    refine hlongest other hother (hstart.trans ?_)
    rw [← htext, List.prefix_append_right_inj]
    exact upToLineEnd_prefix tail
  have hopen : (d.literal quote hashes).opening <+: c :: rest := htext ▸ List.prefix_append _ _
  have hlit := literalAt?_eq_some hpermits hopen hlongest
  rw [d.length_opening]
  refine codeMove_literal ?_ hlit
  rw [← htext]
  exact hd.not_lineComment_opening hpermits _

/-- The end of a literal: the quotation mark stays, the hash signs are hidden. -/
lemma scans_closing (lit : Literal) (tail : List Char) :
    Scans d (.literal lit false) .code lit.closing (lit.quote.delimiter ++ spaces lit.hashes)
      tail := by
  refine scans_start lit.closing_ne_nil lit.closing_free fun c rest htext => ?_
  have hclose : closes lit (c :: rest) = true :=
    closes_iff.2 (htext ▸ List.prefix_append _ _)
  have hc : c ≠ '\\' := by
    rw [Literal.closing, List.append_assoc] at htext
    exact Quote.ne_backslash_of_start htext
  simp [move, literalMove, hclose, hc, Literal.closing]

/-- A character after a backslash is hidden, and the literal goes on after it. -/
lemma scans_escaped {lit : Literal} {c : Char} {tail : List Char}
    (hspans : atLineEnd (c :: tail) = true → lit.quote.spansLines = true) :
    Scans d (.literal lit true) (.literal lit false) [c] [hideAt c tail] tail := by
  refine scans_hideAt (fun hend => ?_) (by simp [move, literalMove, spaces])
  have hmode : (Mode.literal lit true).endLine = .literal lit false := by
    simp [Mode.endLine, hspans hend]
  have hmode' : (Mode.literal lit false).endLine = .literal lit false := by
    simp [Mode.endLine, hspans hend]
  rcases atLineEnd_cons_iff.1 hend with rfl | ⟨rfl, rest, rfl⟩
  · have hscan := scan_newline d (.literal lit true) tail
    rw [hmode] at hscan
    exact hscan
  · -- the line feed after a carriage return ends the escape as well
    have hscan := scan_return d (.literal lit true) rest
    have hagree : scan d (.literal lit true) ('\n' :: rest) =
        scan d (.literal lit false) ('\n' :: rest) := by
      rw [scan_newline, scan_newline, hmode, hmode']
    rw [hagree] at hscan
    exact hscan

/-- A character that neither escapes the next one nor closes the literal is hidden. -/
lemma scans_hidden {lit : Literal} {c : Char} {tail : List Char}
    (hslash : lit.raw = false → c ≠ '\\') (hclose : ¬ lit.closing <+: c :: tail)
    (hspans : atLineEnd (c :: tail) = true → lit.quote.spansLines = true) :
    Scans d (.literal lit false) (.literal lit false) [c] [hideAt c tail] tail := by
  refine scans_hideAt (fun hend => scans_lineEnd (by simp [Mode.endLine, hspans hend]) hend) ?_
  have hclose : closes lit (c :: upToLineEnd tail) = false := by
    rw [Bool.eq_false_iff, ne_eq, closes_iff]
    exact fun hstart => hclose (hstart.trans
      (List.cons_prefix_cons.2 ⟨rfl, upToLineEnd_prefix _⟩))
  have hslash : ¬ (lit.raw = false ∧ c = '\\') := fun hboth => hslash hboth.1 hboth.2
  simp [move, literalMove, hclose, hslash, spaces]

/-- Hash signs inside a raw literal are hidden. -/
lemma scans_hashes {lit : Literal} (hraw : lit.raw = true) (n : Nat) (tail : List Char) :
    Scans d (.literal lit false) (.literal lit false) (List.replicate n '#') (spaces n) tail := by
  induction n with
  | zero => exact Scans.nil _ _
  | succ n ih =>
    have hhash : Scans d (.literal lit false) (.literal lit false) ['#'] [' ']
        (List.replicate n '#' ++ tail) := by
      refine scans_hidden (fun hno => by rw [hraw] at hno; cases hno) ?_ (by simp [atLineEnd])
      -- a literal closes with a quotation mark
      obtain ⟨c, more, hquote, hc, -⟩ := lit.quote.exists_delimiter_eq
      rw [Literal.closing, hquote, List.cons_append, List.cons_prefix_cons]
      rintro ⟨rfl, -⟩
      rcases hc with hc | hc <;> cases hc
    exact hhash.append ih

/-- What stands before the character of a piece is hidden, and the scanner passes over the
character if it has seen that it is escaped. -/
lemma scans_mark {lit : Literal} (hlit : lit.raw = false → lit.hashes = 0) (piece : Piece)
    (tail : List Char) :
    Scans d (.literal lit false) (.literal lit (piece.isSkipped lit)) (piece.mark lit.hashes)
      (spaces (piece.mark lit.hashes).length) tail := by
  cases piece with
  | plain c => exact Scans.nil _ _
  | escaped c =>
    have hend : ∀ rest, atLineEnd ('\\' :: rest) = false :=
      atLineEnd_cons_eq_false (by decide) (by decide)
    cases hraw : lit.raw with
    | false =>
      rw [Piece.mark, hlit hraw]
      refine scans_single (hend tail) ?_
      simp [move, literalMove, hraw, spaces, Piece.isSkipped]
    | true =>
      have hslash : Scans d (.literal lit false) (.literal lit false) ['\\'] [' ']
          (List.replicate lit.hashes '#' ++ tail) := by
        refine scans_single (hend _) ?_
        have hclose : ∀ rest, closes lit ('\\' :: rest) = false := by
          intro rest
          rw [Bool.eq_false_iff, ne_eq, closes_iff]
          rintro ⟨more, hmore⟩
          rw [Literal.closing, List.append_assoc] at hmore
          exact Quote.ne_backslash_of_start hmore rfl
        simp [move, literalMove, hraw, hclose, spaces]
      have hmark := hslash.append (scans_hashes hraw lit.hashes tail)
      simpa [Piece.mark, Piece.isSkipped, hraw, spaces, List.replicate_succ] using hmark

/-- A literal closes in the same places whatever follows it. -/
lemma Literal.closing_start_iff (lit : Literal) (c : Char) (text tail : List Char) :
    lit.closing <+: c :: (text ++ (lit.closing ++ tail)) ↔
      lit.closing <+: c :: (text ++ lit.closing) := by
  have hstart : c :: (text ++ lit.closing) <+: c :: (text ++ (lit.closing ++ tail)) :=
    ⟨tail, by simp⟩
  refine ⟨fun h => List.prefix_of_prefix_length_le h hstart ?_, fun h => h.trans hstart⟩
  simp only [List.length_cons, List.length_append]
  omega

lemma Literal.head?_closing_append (lit : Literal) (tail : List Char) :
    (lit.closing ++ tail).head? ≠ some '\n' := by
  obtain ⟨c, more, hclosing⟩ := List.exists_cons_of_ne_nil lit.closing_ne_nil
  rw [hclosing]
  simpa using (lit.closing_free c (by simp [hclosing])).1

/-- A line ends inside a literal only if the literal may run over lines. -/
lemma spansLines_of_atLineEnd {quote : Quote} {c : Char} {text tail : List Char}
    (hlines : quote.spansLines = false → '\n' ∉ c :: text) (htail : tail.head? ≠ some '\n')
    (hend : atLineEnd (c :: (text ++ tail)) = true) : quote.spansLines = true := by
  by_contra hno
  have hmem := hlines (Bool.eq_false_iff.2 hno)
  rcases atLineEnd_cons_iff.1 hend with rfl | ⟨-, hstart⟩
  · exact hmem List.mem_cons_self
  · rw [← head?_eq_some_iff_start, List.head?_append] at hstart
    cases text with
    | nil => exact htail (by simpa using hstart)
    | cons a text => simp_all

lemma Dialect.hashes_eq_zero {d : Dialect} {quote : Quote} {hashes : Nat}
    (hraw : (d.literal quote hashes).raw = false) : (d.literal quote hashes).hashes = 0 := by
  simpa [literal] using (Bool.or_eq_false_iff.1 hraw).1

lemma Piece.mark_free (hashes : Nat) (piece : Piece) :
    ∀ c ∈ piece.mark hashes, c ≠ '\n' ∧ c ≠ '\r' := by
  cases piece with
  | plain c => simp [mark]
  | escaped c => simp [mark, List.mem_replicate]

/-- A backslash that the scanner knows stands only before an escaped character. -/
lemma Piece.WellFormed.ne_backslash {quote : Quote} {hashes : Nat} {piece : Piece}
    {rest : List Piece} (h : Piece.WellFormed d quote hashes (piece :: rest))
    (hraw : (d.literal quote hashes).raw = false)
    (hskip : piece.isSkipped (d.literal quote hashes) = false) : piece.char ≠ '\\' := by
  obtain ⟨hhashes, hverbatim⟩ := Bool.or_eq_false_iff.1 hraw
  cases piece with
  | escaped c =>
    rw [isSkipped, hraw] at hskip
    cases hskip
  | plain c =>
    rintro rfl
    obtain rfl : hashes = 0 := by simpa using hhashes
    exact h.1 hverbatim (by simp [List.cons_prefix_cons])

lemma Piece.WellFormed.tail {quote : Quote} {hashes : Nat} {piece : Piece} {rest : List Piece}
    (h : Piece.WellFormed d quote hashes (piece :: rest)) :
    Piece.WellFormed d quote hashes rest := by
  cases piece with
  | plain c => exact h.2.2
  | escaped c => exact h.2

/-- The inside of a literal is hidden up to the first place that looks like its end; nothing is left
then, unless the scanner closes the literal early. -/
lemma scans_pieces {quote : Quote} {hashes : Nat} {body : List Piece}
    (h : Piece.WellFormed d quote hashes body)
    (hlines : quote.spansLines = false → '\n' ∉ Piece.source hashes body) (tail : List Char) :
    let lit := d.literal quote hashes
    ∃ taken rest, Piece.source hashes body = taken ++ rest ∧
      Scans d (.literal lit false) (.literal lit false) taken (hide taken)
        (rest ++ (lit.closing ++ tail)) ∧
      lit.closing <+: rest ++ lit.closing ∧ (Piece.ClosedAtEnd lit body ↔ rest = []) := by
  intro lit
  induction body with
  | nil =>
    refine ⟨[], [], rfl, Scans.nil _ _, List.prefix_rfl, ?_⟩
    exact ⟨fun _ => rfl, fun _ => trivial⟩
  | cons piece body ih =>
    have hmark : Scans d (.literal lit false) (.literal lit (piece.isSkipped lit))
        (piece.mark hashes) (spaces (piece.mark hashes).length)
        (piece.char :: (Piece.source hashes body ++ (lit.closing ++ tail))) :=
      scans_mark Dialect.hashes_eq_zero piece _
    have hfree := piece.mark_free hashes
    by_cases hstop : piece.isSkipped lit = false ∧
        lit.closing <+: piece.char :: (Piece.source hashes body ++ lit.closing)
    · -- the scanner closes the literal at this character
      obtain ⟨hskip, hclose⟩ := hstop
      rw [hskip] at hmark
      refine ⟨piece.mark hashes, piece.char :: Piece.source hashes body, rfl, ?_, hclose, ?_⟩
      · have hhide : hide (piece.mark hashes) = spaces (piece.mark hashes).length := by
          simpa [hide] using hide_free_append hfree []
        rw [hhide]
        exact hmark
      · exact iff_of_false (fun hclosed => hclosed.1 hskip hclose) (List.cons_ne_nil _ _)
    · have hlines' : quote.spansLines = false → '\n' ∉ piece.char :: Piece.source hashes body :=
        fun hone hmem => hlines hone (List.mem_append_right _ hmem)
      obtain ⟨taken, rest, hsource, hscans, hclosing, hclosed⟩ :=
        ih h.tail fun hone hmem => hlines' hone (List.mem_cons_of_mem _ hmem)
      have hspans := spansLines_of_atLineEnd hlines' (lit.head?_closing_append tail)
      have hchar : Scans d (.literal lit (piece.isSkipped lit)) (.literal lit false) [piece.char]
          [hideAt piece.char (Piece.source hashes body ++ (lit.closing ++ tail))]
          (Piece.source hashes body ++ (lit.closing ++ tail)) := by
        cases hskip : piece.isSkipped lit with
        | true => exact scans_escaped hspans
        | false =>
          refine scans_hidden (fun hraw => h.ne_backslash hraw hskip) ?_ hspans
          rw [lit.closing_start_iff]
          exact fun hclose => hstop ⟨hskip, hclose⟩
      -- what is left starts with a quotation mark, so that no line end is cut in two
      have hhead : (rest ++ (lit.closing ++ tail)).head? ≠ some '\n' := by
        obtain ⟨more, hmore⟩ := hclosing
        rw [← List.append_assoc, ← hmore, List.append_assoc]
        exact lit.head?_closing_append _
      refine ⟨piece.mark hashes ++ piece.char :: taken, rest, ?_, ?_, hclosing, ?_⟩
      · rw [Piece.source, hsource, List.append_assoc, List.cons_append]
      · rw [hsource, List.append_assoc] at hmark hchar
        rw [hideAt_append hhead] at hchar
        rw [hide_free_append hfree, hide]
        exact hmark.append (hchar.append hscans)
      · rw [← hclosed, Piece.ClosedAtEnd]
        refine and_iff_right_of_imp fun _ hskip hclose => hstop ⟨hskip, hclose⟩

/-! ### Sources are masked token by token -/

/-- A token is masked as a whole, and the scanner is in code again after it. -/
lemma scans_token (hd : d.Regular) {token : Token} {after : List Char}
    (h : token.WellFormed d after) (hclosed : token.ClosedAtEnd d) :
    Scans d .code .code (token.source d) (token.masked d) after := by
  cases token with
  | code text => exact scans_code h
  | lineComment text => exact scans_lineComment hd h
  | blockComment body => exact scans_blockComment hd h.1 h.2 after
  | literal quote hashes body =>
    have hclosing : Scans d (.literal (d.literal quote hashes) false) .code
        (d.literal quote hashes).closing (quote.delimiter ++ spaces hashes) after :=
      scans_closing (d.literal quote hashes) after
    have hopening := scans_opening hd h.permits (by rw [← List.append_assoc]; exact h.longest)
    obtain ⟨taken, rest, hsource, hbody, -, hrest⟩ := scans_pieces h.unclosed h.oneLine after
    obtain rfl := hrest.1 hclosed
    rw [List.append_nil] at hsource
    rw [List.nil_append] at hbody
    rw [hsource] at hopening
    rw [Token.source, Token.masked, hsource]
    exact hopening.append (hbody.append hclosing)

lemma scans_tokens (hd : d.Regular) {tokens : List Token} (h : Tokens.WellFormed d tokens)
    (hclosed : ∀ token ∈ tokens, token.ClosedAtEnd d) :
    Scans d .code .code (Tokens.source d tokens) (Tokens.masked d tokens) [] := by
  induction tokens with
  | nil => exact Scans.nil .code []
  | cons token rest ih =>
    obtain ⟨htoken, hrest⟩ := h
    obtain ⟨hfirst, hclosed⟩ := List.forall_mem_cons.1 hclosed
    refine Scans.append (scans_token hd ?_ hfirst) (ih hrest hclosed)
    rwa [List.append_nil]

/-- The lines of well-formed tokens are masked to the lines of the masked tokens, and the scanner
is in code after them, if it closes all literals at their ends. -/
lemma maskLines_tokens (hd : d.Regular) {tokens : List Token} (h : Tokens.WellFormed d tokens)
    (hclosed : ∀ token ∈ tokens, token.ClosedAtEnd d) :
    maskLines d .code (lines (Tokens.source d tokens)) = lines (Tokens.masked d tokens) ∧
      modeAfter d .code (lines (Tokens.source d tokens)) = .code := by
  have hcode : Mode.code.endLine = .code := rfl
  obtain ⟨hlines, hmode⟩ := scan_lines (d := d) hcode (Tokens.source d tokens)
  have hscan := scans_tokens hd h hclosed
  rw [Scans, List.append_nil, scan_nil, List.append_nil] at hscan
  rw [hlines, hmode, hscan]
  exact ⟨rfl, rfl⟩

end Strata.Masking

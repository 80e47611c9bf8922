import Mathlib.Data.List.Forall2
import Strata.Masking.Mask
import Strata.Proofs.Text.Lines

/-!
# Steps of the scanner

What one step of the scanner does, said by the delimiters that stand at the start of the text.  A
literal opens with its hash signs and its quotation mark, where the longest quotation mark counts,
and closes with the quotation mark and the hash signs.  Whatever the step, it writes as many
characters as it takes, each of them the one it took or a space; so masking a line keeps its length
and its columns.
-/

namespace Strata.Masking

open Strata.Text

/-! ### Delimiters -/

/-- How a literal opens. -/
def Literal.opening (lit : Literal) : List Char :=
  List.replicate lit.hashes '#' ++ lit.quote.delimiter

/-- How a literal closes. -/
def Literal.closing (lit : Literal) : List Char :=
  lit.quote.delimiter ++ List.replicate lit.hashes '#'

namespace Quote

/-- Whether the quotation mark is made of double quotes. -/
def isDouble : Quote → Bool
  | double | tripleDouble => true
  | single | tripleSingle => false

lemma exists_delimiter_eq (quote : Quote) :
    ∃ c rest, quote.delimiter = c :: rest ∧ (c = '"' ∨ c = '\'') ∧
      (quote.isDouble = true ↔ c = '"') := by
  cases quote
  · exact ⟨'"', [], rfl, by decide⟩
  · exact ⟨'\'', [], rfl, by decide⟩
  · exact ⟨'"', ['"', '"'], rfl, by decide⟩
  · exact ⟨'\'', ['\'', '\''], rfl, by decide⟩

lemma mem_delimiter {quote : Quote} {c : Char} (hc : c ∈ quote.delimiter) :
    c = '"' ∨ c = '\'' := by
  cases quote <;> simp_all [delimiter]

lemma length_delimiter_pos (quote : Quote) : 0 < quote.delimiter.length := by
  cases quote <;> decide

lemma solid_delimiter (quote : Quote) : Solid quote.delimiter := by
  intro c hc
  rcases mem_delimiter hc with rfl | rfl <;> decide

/-- A text that starts with a quotation mark starts with no backslash. -/
lemma ne_backslash_of_start {quote : Quote} {more rest : List Char} {c : Char}
    (h : quote.delimiter ++ more = c :: rest) : c ≠ '\\' := by
  obtain ⟨a, others, hquote, ha, -⟩ := quote.exists_delimiter_eq
  rw [hquote, List.cons_append] at h
  rw [← (List.cons.inj h).1]
  rcases ha with rfl | rfl <;> decide

end Quote

lemma Literal.solid_opening (lit : Literal) : Solid lit.opening :=
  (solid_replicate (by decide) _).append lit.quote.solid_delimiter

lemma Literal.solid_closing (lit : Literal) : Solid lit.closing :=
  lit.quote.solid_delimiter.append (solid_replicate (by decide) _)

lemma Literal.opening_ne_nil (lit : Literal) : lit.opening ≠ [] := by
  have hpos := lit.quote.length_delimiter_pos
  rw [← List.length_pos_iff, opening, List.length_append]
  omega

lemma Literal.closing_ne_nil (lit : Literal) : lit.closing ≠ [] := by
  have hpos := lit.quote.length_delimiter_pos
  rw [← List.length_pos_iff, closing, List.length_append]
  omega

namespace Dialect

/-- Whether literals in these quotes exist in the language. -/
def allows (d : Dialect) : Quote → Bool
  | .double | .tripleDouble => true
  | .single => d.singleQuotes
  | .tripleSingle => d.tripleSingleQuotes

/-- The literal with this quotation mark and this number of hash signs. -/
def literal (d : Dialect) (quote : Quote) (hashes : Nat) : Literal where
  quote := quote
  raw := 0 < hashes || (d.rawTripleQuotes && quote == .tripleDouble)
  hashes := hashes

lemma length_opening (d : Dialect) (quote : Quote) (hashes : Nat) :
    (d.literal quote hashes).opening.length = hashes + quote.delimiter.length := by
  simp [Literal.opening, literal]

/-- Literals with this quotation mark and this number of hash signs exist in the language. -/
structure Permits (d : Dialect) (quote : Quote) (hashes : Nat) : Prop where
  /-- The quotation mark does. -/
  allowed : d.allows quote = true
  /-- Hash signs stand only before double quotes, where the language has them. -/
  fenced : 0 < hashes → d.hashFences = true ∧ quote.isDouble = true

/-- No quotation mark longer than this one stands after the hash signs at the start of a text. -/
def Longest (d : Dialect) (quote : Quote) (hashes : Nat) (text : List Char) : Prop :=
  ∀ other, d.allows other = true → (d.literal other hashes).opening <+: text →
    other.delimiter.length ≤ quote.delimiter.length

/-- A comment or a literal opens at the start of a text. -/
inductive Opens (d : Dialect) (text : List Char) : Prop where
  /-- A comment up to the line end does. -/
  | lineComment (h : d.lineComment <+: text)
  /-- A block comment does. -/
  | blockComment (hd : d.blockComments = true) (h : ['/', '*'] <+: text)
  /-- A literal does. -/
  | literal {quote : Quote} {hashes : Nat} (hd : d.Permits quote hashes)
      (h : (d.literal quote hashes).opening <+: text)

/-- More text after an opening does not hide it. -/
lemma Opens.mono {d : Dialect} {short long : List Char} (hopens : d.Opens short)
    (hlong : short <+: long) : d.Opens long := by
  cases hopens with
  | lineComment h => exact .lineComment (h.trans hlong)
  | blockComment hd h => exact .blockComment hd (h.trans hlong)
  | literal hd h => exact .literal hd (h.trans hlong)

end Dialect

/-! ### Where literals open and close -/

lemma le_hashCount_iff {n : Nat} {text : List Char} :
    n ≤ hashCount text ↔ List.replicate n '#' <+: text := by
  induction n generalizing text with
  | zero => simp
  | succ n ih =>
    cases text with
    | nil => simp [hashCount, List.replicate_succ]
    | cons c text =>
      by_cases hc : c = '#'
      · subst hc
        have hcount : hashCount ('#' :: text) = hashCount text + 1 := by simp [hashCount]
        rw [hcount, Nat.succ_le_succ_iff, ih, List.replicate_succ, List.cons_prefix_cons,
          and_iff_right rfl]
      · have hcount : hashCount (c :: text) = 0 := by simp [hashCount, hc]
        simp [hcount, List.replicate_succ, List.cons_prefix_cons, Ne.symm hc]

/-- Hash signs before a quotation mark are counted up to it. -/
lemma hashCount_replicate_append (n : Nat) (quote : Quote) (rest : List Char) :
    hashCount (List.replicate n '#' ++ (quote.delimiter ++ rest)) = n := by
  obtain ⟨c, more, hquote, hc, -⟩ := quote.exists_delimiter_eq
  have hne : (c == '#') = false := by rcases hc with rfl | rfl <;> decide
  rw [hashCount, List.takeWhile_append_of_pos (by simp), hquote, List.cons_append,
    List.takeWhile_cons_of_neg (by simp [hne])]
  simp

lemma closes_iff {lit : Literal} {text : List Char} :
    closes lit text = true ↔ lit.closing <+: text := by
  unfold closes Literal.closing
  cases hrest : after? lit.quote.delimiter text with
  | none =>
    have hno := after?_eq_none_iff.1 hrest
    simp only [Bool.false_eq_true, false_iff]
    exact fun h => hno ((List.prefix_append _ _).trans h)
  | some rest =>
    rw [after?_eq_some_iff.1 hrest, List.prefix_append_right_inj, decide_eq_true_iff,
      le_hashCount_iff]

lemma quoteAt?_eq_none_iff {d : Dialect} {text : List Char} :
    quoteAt? d text = none ↔ ∀ quote, d.allows quote = true → ¬ quote.delimiter <+: text := by
  constructor
  · intro hnone quote hquote hstart
    unfold quoteAt? at hnone
    split_ifs at hnone with h1 h2 h3 h4
    rw [beq_iff_eq, head?_eq_some_iff_start] at h3
    cases quote with
    | double => exact h3 hstart
    | single =>
      rw [Bool.and_eq_true, beq_iff_eq, head?_eq_some_iff_start] at h4
      exact h4 ⟨hquote, hstart⟩
    | tripleDouble => exact h1 (startsWith_iff.2 hstart)
    | tripleSingle =>
      rw [Bool.and_eq_true, startsWith_iff] at h2
      exact h2 ⟨hquote, hstart⟩
  · intro hall
    unfold quoteAt?
    rw [if_neg, if_neg, if_neg, if_neg]
    · rw [Bool.and_eq_true, beq_iff_eq, head?_eq_some_iff_start]
      exact fun h => hall .single h.1 h.2
    · rw [beq_iff_eq, head?_eq_some_iff_start]
      exact hall .double rfl
    · rw [Bool.and_eq_true, startsWith_iff]
      exact fun h => hall .tripleSingle h.1 h.2
    · rw [startsWith_iff]
      exact hall .tripleDouble rfl

/-- The quotation mark found at the start of a text stands there, and no longer one does. -/
lemma longest_of_quoteAt? {d : Dialect} {text : List Char} {quote : Quote}
    (h : quoteAt? d text = some quote) :
    d.allows quote = true ∧ quote.delimiter <+: text ∧
      ∀ other, d.allows other = true → other.delimiter <+: text →
        other.delimiter.length ≤ quote.delimiter.length := by
  have hthree : ∀ other : Quote, other.delimiter.length ≤ 3 := by
    intro other
    cases other <;> decide
  -- a single quotation mark is found only after both triple ones have been ruled out
  have hone : ¬ startsWith Quote.tripleDouble.delimiter text = true →
      ¬ (d.tripleSingleQuotes && startsWith Quote.tripleSingle.delimiter text) = true →
      ∀ other, d.allows other = true → other.delimiter <+: text → other.delimiter.length ≤ 1 := by
    intro hdouble hsingle other hother hstart
    cases other with
    | double | single => exact Nat.le_refl 1
    | tripleDouble => exact absurd (startsWith_iff.2 hstart) hdouble
    | tripleSingle =>
      exact absurd (Bool.and_eq_true_iff.2 ⟨hother, startsWith_iff.2 hstart⟩) hsingle
  unfold quoteAt? at h
  split_ifs at h with h1 h2 h3 h4 <;> cases h
  · exact ⟨rfl, startsWith_iff.1 h1, fun other _ _ => hthree other⟩
  · rw [Bool.and_eq_true, startsWith_iff] at h2
    exact ⟨h2.1, h2.2, fun other _ _ => hthree other⟩
  · rw [beq_iff_eq, head?_eq_some_iff_start] at h3
    exact ⟨rfl, h3, hone h1 h2⟩
  · rw [Bool.and_eq_true, beq_iff_eq, head?_eq_some_iff_start] at h4
    exact ⟨h4.1, h4.2, hone h1 h2⟩

/-- The longest quotation mark at the start of a text is the one that a literal opens with. -/
lemma quoteAt?_eq_some_iff {d : Dialect} {text : List Char} {quote : Quote} :
    quoteAt? d text = some quote ↔
      d.allows quote = true ∧ quote.delimiter <+: text ∧
        ∀ other, d.allows other = true → other.delimiter <+: text →
          other.delimiter.length ≤ quote.delimiter.length := by
  refine ⟨longest_of_quoteAt?, ?_⟩
  rintro ⟨hquote, hstart, hlongest⟩
  cases hfound : quoteAt? d text with
  | none => exact absurd hstart (quoteAt?_eq_none_iff.1 hfound quote hquote)
  | some found =>
    obtain ⟨hallowed, hstarts, hmax⟩ := longest_of_quoteAt? hfound
    -- two starts of one text that are equally long are the same
    have hlength : found.delimiter.length = quote.delimiter.length :=
      Nat.le_antisymm (hlongest found hallowed hstarts) (hmax quote hquote hstart)
    have hdelimiter : found.delimiter = quote.delimiter :=
      (List.prefix_of_prefix_length_le hstarts hstart hlength.le).eq_of_length hlength
    have hinj : found = quote := by
      cases found <;> cases quote <;> first | rfl | exact absurd hdelimiter (by decide)
    rw [hinj]

/-- After the hash signs of an opening comes its quotation mark. -/
lemma opening_prefix_iff {d : Dialect} {quote : Quote} {hashes : Nat} {body : List Char} :
    (d.literal quote hashes).opening <+: List.replicate hashes '#' ++ body ↔
      quote.delimiter <+: body :=
  List.prefix_append_right_inj _

lemma longest_iff {d : Dialect} {quote : Quote} {hashes : Nat} {body : List Char} :
    d.Longest quote hashes (List.replicate hashes '#' ++ body) ↔
      ∀ other, d.allows other = true → other.delimiter <+: body →
        other.delimiter.length ≤ quote.delimiter.length := by
  simp only [Dialect.Longest, opening_prefix_iff]

/-- Where a literal opens, the hash signs before its quotation mark are those that are counted. -/
lemma exists_body_of_opening {d : Dialect} {quote : Quote} {hashes : Nat} {text : List Char}
    (hd : d.Permits quote hashes) (h : (d.literal quote hashes).opening <+: text) :
    ∃ body, text = List.replicate hashes '#' ++ body ∧ quote.delimiter <+: body ∧
      (if d.hashFences then hashCount text else 0) = hashes := by
  obtain ⟨rest, rfl⟩ := h
  have hsplit : (d.literal quote hashes).opening ++ rest =
      List.replicate hashes '#' ++ (quote.delimiter ++ rest) := List.append_assoc ..
  refine ⟨quote.delimiter ++ rest, hsplit, List.prefix_append _ _, ?_⟩
  split
  · rw [hsplit, hashCount_replicate_append]
  · rename_i hfences
    by_contra hne
    exact hfences (hd.fenced (Nat.pos_of_ne_zero (Ne.symm hne))).1

/-- Reading a literal where hash signs are followed by a quotation mark that they may fence. -/
lemma literalAt?_replicate_append {d : Dialect} {hashes : Nat} {body : List Char}
    (hcount : (if d.hashFences then hashCount (List.replicate hashes '#' ++ body) else 0) = hashes)
    (hfenced : 0 < hashes → body.head? = some '"') :
    literalAt? d (List.replicate hashes '#' ++ body) =
      (quoteAt? d body).map fun quote => d.literal quote hashes := by
  have hguard : (decide (0 < hashes) && body.head? != some '"') = false := by
    rw [Bool.and_eq_false_iff, decide_eq_false_iff_not, or_iff_not_imp_left, not_not]
    intro hpos
    rw [hfenced hpos]
    rfl
  unfold literalAt?
  simp only [hcount, List.drop_left' List.length_replicate, hguard]
  rfl

lemma Quote.head?_of_start {quote : Quote} {body : List Char} (h : quote.delimiter <+: body)
    (hdouble : quote.isDouble = true) : body.head? = some '"' := by
  obtain ⟨c, more, hdelimiter, -, hiff⟩ := quote.exists_delimiter_eq
  obtain ⟨rest, rfl⟩ := h
  rw [hdelimiter, hiff.1 hdouble]
  rfl

/-- A literal opens where its hash signs and its quotation mark stand, unless the text goes on with
a longer quotation mark. -/
lemma literalAt?_eq_some {d : Dialect} {quote : Quote} {hashes : Nat} {text : List Char}
    (hd : d.Permits quote hashes) (h : (d.literal quote hashes).opening <+: text)
    (hlongest : d.Longest quote hashes text) :
    literalAt? d text = some (d.literal quote hashes) := by
  obtain ⟨body, rfl, hquote, hcount⟩ := exists_body_of_opening hd h
  have hfenced : 0 < hashes → body.head? = some '"' :=
    fun hpos => Quote.head?_of_start hquote (hd.fenced hpos).2
  have hfound : quoteAt? d body = some quote :=
    quoteAt?_eq_some_iff.2 ⟨hd.allowed, hquote, longest_iff.1 hlongest⟩
  rw [literalAt?_replicate_append hcount hfenced, hfound]
  rfl

/-- What is known of a literal that opens at the start of a text. -/
lemma opening_of_literalAt? {d : Dialect} {text : List Char} {lit : Literal}
    (h : literalAt? d text = some lit) :
    ∃ quote hashes, lit = d.literal quote hashes ∧ d.Permits quote hashes ∧
      (d.literal quote hashes).opening <+: text ∧ d.Longest quote hashes text := by
  unfold literalAt? at h
  dsimp only at h
  generalize hcount : (if d.hashFences then hashCount text else 0) = hashes at h
  have hstart : List.replicate hashes '#' <+: text := by
    rw [← le_hashCount_iff, ← hcount]
    split <;> omega
  obtain ⟨body, rfl⟩ := hstart
  rw [List.drop_left' List.length_replicate] at h
  split at h
  · cases h
  · rename_i hguard
    obtain ⟨quote, hquote, rfl⟩ := Option.map_eq_some_iff.1 h
    obtain ⟨hallowed, hstart, hlongest⟩ := quoteAt?_eq_some_iff.1 hquote
    refine ⟨quote, hashes, rfl, ⟨hallowed, ?_⟩, opening_prefix_iff.2 hstart,
      longest_iff.2 hlongest⟩
    intro hpos
    have hfences : d.hashFences = true := by
      by_contra hno
      rw [if_neg hno] at hcount
      omega
    refine ⟨hfences, ?_⟩
    obtain ⟨c, more, hdelimiter, -, hdouble⟩ := quote.exists_delimiter_eq
    obtain ⟨rest, rfl⟩ := hdelimiter ▸ hstart
    simpa [hpos, hdouble] using hguard

/-- No literal opens at the start of a text exactly if none is written there. -/
lemma literalAt?_eq_none_iff {d : Dialect} {text : List Char} :
    literalAt? d text = none ↔
      ∀ quote hashes, d.Permits quote hashes → ¬ (d.literal quote hashes).opening <+: text := by
  constructor
  · intro hnone quote hashes hd h
    obtain ⟨body, rfl, hquote, hcount⟩ := exists_body_of_opening hd h
    have hfenced : 0 < hashes → body.head? = some '"' :=
      fun hpos => Quote.head?_of_start hquote (hd.fenced hpos).2
    rw [literalAt?_replicate_append hcount hfenced, Option.map_eq_none_iff] at hnone
    exact quoteAt?_eq_none_iff.1 hnone quote hd.allowed hquote
  · intro hall
    cases hlit : literalAt? d text with
    | none => rfl
    | some lit =>
      obtain ⟨quote, hashes, -, hd, hopen, -⟩ := opening_of_literalAt? hlit
      exact absurd hopen (hall quote hashes hd)

/-- What opens at the start of a text can be looked up. -/
lemma Dialect.opens_iff (d : Dialect) {text : List Char} :
    d.Opens text ↔ d.lineComment <+: text ∨ d.blockComments = true ∧ ['/', '*'] <+: text ∨
      literalAt? d text ≠ none := by
  rw [ne_eq, literalAt?_eq_none_iff]
  push Not
  constructor
  · rintro (h | ⟨hd, h⟩ | ⟨hd, h⟩)
    · exact .inl h
    · exact .inr (.inl ⟨hd, h⟩)
    · exact .inr (.inr ⟨_, _, hd, h⟩)
  · rintro (h | ⟨hd, h⟩ | ⟨quote, hashes, hd, h⟩)
    · exact .lineComment h
    · exact .blockComment hd h
    · exact .literal hd h

/-- A literal never opens where a block comment does. -/
lemma Literal.not_blockComment_of_opening {lit : Literal} {text : List Char}
    (h : lit.opening <+: text) : ¬ ['/', '*'] <+: text := by
  rintro ⟨rest, rfl⟩
  obtain ⟨c, more, hc, hquote, -⟩ := lit.quote.exists_delimiter_eq
  cases hhashes : lit.hashes with
  | zero =>
    rw [opening, hhashes, hc, List.replicate_zero, List.nil_append, List.cons_append,
      List.cons_prefix_cons] at h
    rcases hquote with rfl | rfl <;> exact absurd h.1 (by decide)
  | succ n =>
    rw [opening, hhashes, List.replicate_succ, List.cons_append, List.cons_append,
      List.cons_prefix_cons] at h
    exact absurd h.1 (by decide)

/-! ### Steps in code -/

/-- Where nothing opens, code is copied. -/
lemma codeMove_of_not_opens {d : Dialect} {c : Char} {rest : List Char}
    (h : ¬ d.Opens (c :: rest)) : codeMove d c rest = ⟨.code, [c], 0⟩ := by
  rw [d.opens_iff, not_or, not_or, not_not, ← startsWith_iff, ← startsWith_iff,
    ← Bool.and_eq_true] at h
  obtain ⟨hline, hblock, hlit⟩ := h
  simp only [codeMove, if_neg hline, if_neg hblock, hlit]

/-- A comment up to the line end takes the rest of the line. -/
lemma codeMove_lineComment {d : Dialect} {c : Char} {rest : List Char}
    (h : d.lineComment <+: c :: rest) :
    codeMove d c rest = ⟨.code, spaces (rest.length + 1), rest.length⟩ := by
  simp [codeMove, startsWith_iff.2 h]

lemma codeMove_blockComment {d : Dialect} {c : Char} {rest : List Char}
    (hd : d.blockComments = true) (hline : ¬ d.lineComment <+: c :: rest)
    (h : ['/', '*'] <+: c :: rest) : codeMove d c rest = ⟨.comment 0, spaces 2, 1⟩ := by
  simp [codeMove, startsWith_eq_false_iff.2 hline, hd, startsWith_iff.2 h]

lemma codeMove_literal {d : Dialect} {c : Char} {rest : List Char} {lit : Literal}
    (hline : ¬ d.lineComment <+: c :: rest) (h : literalAt? d (c :: rest) = some lit) :
    codeMove d c rest = ⟨.literal lit false, spaces lit.hashes ++ lit.quote.delimiter,
      lit.hashes + lit.quote.delimiter.length - 1⟩ := by
  have hblock : ¬ ['/', '*'] <+: c :: rest := by
    obtain ⟨quote, hashes, rfl, -, hopen, -⟩ := opening_of_literalAt? h
    exact Literal.not_blockComment_of_opening hopen
  simp [codeMove, startsWith_eq_false_iff.2 hline, startsWith_eq_false_iff.2 hblock, h]

/-- A step in code is one of four: the start of a comment, of either kind, or of a literal, or a
copied character. -/
lemma codeMove_cases (d : Dialect) (c : Char) (rest : List Char) :
    (d.lineComment <+: c :: rest ∧
      codeMove d c rest = ⟨.code, spaces (rest.length + 1), rest.length⟩) ∨
    (['/', '*'] <+: c :: rest ∧ codeMove d c rest = ⟨.comment 0, spaces 2, 1⟩) ∨
    (∃ quote hashes, ¬ d.lineComment <+: c :: rest ∧ d.Permits quote hashes ∧
      (d.literal quote hashes).opening <+: c :: rest ∧ d.Longest quote hashes (c :: rest) ∧
      codeMove d c rest = ⟨.literal (d.literal quote hashes) false,
        spaces hashes ++ quote.delimiter, hashes + quote.delimiter.length - 1⟩) ∨
    (¬ d.Opens (c :: rest) ∧ codeMove d c rest = ⟨.code, [c], 0⟩) := by
  by_cases hline : d.lineComment <+: c :: rest
  · exact .inl ⟨hline, codeMove_lineComment hline⟩
  · refine .inr ?_
    by_cases hblock : d.blockComments = true ∧ ['/', '*'] <+: c :: rest
    · exact .inl ⟨hblock.2, codeMove_blockComment hblock.1 hline hblock.2⟩
    · refine .inr ?_
      cases hlit : literalAt? d (c :: rest) with
      | none =>
        have hopens : ¬ d.Opens (c :: rest) := by
          rw [d.opens_iff]
          rintro (h | h | h)
          · exact hline h
          · exact hblock h
          · exact h hlit
        exact .inr ⟨hopens, codeMove_of_not_opens hopens⟩
      | some lit =>
        obtain ⟨quote, hashes, rfl, hd, hopen, hlongest⟩ := opening_of_literalAt? hlit
        exact .inl ⟨quote, hashes, hline, hd, hopen, hlongest, codeMove_literal hline hlit⟩

/-! ### Steps at a blank -/

lemma commentMove_blank (d : Dialect) {c : Char} (hc : isBlank c = true) (outer : Nat)
    (rest : List Char) : commentMove d outer (c :: rest) = ⟨.comment outer, spaces 1, 0⟩ := by
  have hopen : startsWith ['/', '*'] (c :: rest) = false :=
    startsWith_eq_false_iff.2 ((solid_pair (by decide) (by decide)).not_start (by simp) hc)
  have hclose : startsWith ['*', '/'] (c :: rest) = false :=
    startsWith_eq_false_iff.2 ((solid_pair (by decide) (by decide)).not_start (by simp) hc)
  simp [commentMove, hopen, hclose]

lemma literalMove_blank {c : Char} (hc : isBlank c = true) (lit : Literal) (escaped : Bool)
    (rest : List Char) :
    literalMove lit escaped (c :: rest) = ⟨.literal lit false, spaces 1, 0⟩ := by
  have hslash : c ≠ '\\' := by
    rintro rfl
    revert hc
    decide
  have hclose : closes lit (c :: rest) = false := by
    rw [Bool.eq_false_iff, ne_eq, closes_iff]
    exact lit.solid_closing.not_start lit.closing_ne_nil hc
  simp [literalMove, hslash, hclose]

/-! ### Covers -/

/-- A text with some of its characters replaced by spaces. -/
def Covers : (out text : List Char) → Prop :=
  List.Forall₂ fun o c => o = c ∨ o = ' '

namespace Covers

lemma refl (text : List Char) : Covers text text :=
  List.forall₂_same.2 fun _ _ => .inl rfl

lemma spaces {n : Nat} {text : List Char} (h : n = text.length) :
    Covers (Masking.spaces n) text := by
  subst h
  induction text with
  | nil => exact .nil
  | cons c text ih => exact .cons (.inr rfl) ih

lemma append {out out' text text' : List Char} (h : Covers out text) (h' : Covers out' text') :
    Covers (out ++ out') (text ++ text') :=
  List.rel_append h h'

/-- What starts the covered text and holds no blank was there before. -/
lemma start_of_start {out text start : List Char} (h : Covers out text) (hstart : Solid start)
    (hout : start <+: out) : start <+: text := by
  induction h generalizing start with
  | nil => exact hout
  | cons ho _ ih =>
    cases start with
    | nil => exact List.nil_prefix
    | cons s start =>
      obtain ⟨rfl, hrest⟩ := List.cons_prefix_cons.1 hout
      rcases ho with rfl | rfl
      · exact List.cons_prefix_cons.2
          ⟨rfl, ih (fun c hc => hstart c (List.mem_cons_of_mem _ hc)) hrest⟩
      · exact absurd (hstart ' ' List.mem_cons_self) (by decide)

end Covers

/-- A step takes characters of the line and covers what it takes. -/
structure Move.Fits (step : Move) (c : Char) (rest : List Char) : Prop where
  /-- It takes no more than there is. -/
  more_le : step.more ≤ rest.length
  /-- It writes what it takes, or spaces. -/
  covers : Covers step.out (c :: rest.take step.more)

/-- A step that takes what stands at the start of the line fits. -/
lemma Move.fits_of_start (mode : Mode) {out taken : List Char} {c : Char} {rest : List Char}
    (hne : taken ≠ []) (htaken : taken <+: c :: rest) (hout : Covers out taken) :
    Move.Fits ⟨mode, out, taken.length - 1⟩ c rest := by
  obtain ⟨a, more, rfl⟩ := List.exists_cons_of_ne_nil hne
  obtain ⟨rfl, hmore⟩ := List.cons_prefix_cons.1 htaken
  refine ⟨hmore.length_le, ?_⟩
  have htake : rest.take more.length = more := (List.prefix_iff_eq_take.1 hmore).symm
  simpa [htake] using hout

lemma fits_single {mode : Mode} {out c : Char} (h : out = c ∨ out = ' ') (rest : List Char) :
    Move.Fits ⟨mode, [out], 0⟩ c rest :=
  ⟨Nat.zero_le _, .cons h .nil⟩

lemma fits_commentMove (d : Dialect) (outer : Nat) (c : Char) (rest : List Char) :
    (commentMove d outer (c :: rest)).Fits c rest := by
  have hpair : ∀ {pair : List Char} (mode : Mode), pair.length = 2 → pair <+: c :: rest →
      Move.Fits ⟨mode, spaces 2, 1⟩ c rest := by
    intro pair mode hlength hstart
    have hne : pair ≠ [] := by
      rintro rfl
      simp at hlength
    have := Move.fits_of_start mode hne hstart (Covers.spaces hlength.symm)
    rwa [hlength] at this
  unfold commentMove
  split_ifs with hopen hclose
  · rw [Bool.and_eq_true, startsWith_iff] at hopen
    exact hpair _ rfl hopen.2
  · exact hpair _ rfl (startsWith_iff.1 hclose)
  · exact fits_single (.inr rfl) rest

lemma fits_literalMove (lit : Literal) (escaped : Bool) (c : Char) (rest : List Char) :
    (literalMove lit escaped (c :: rest)).Fits c rest := by
  unfold literalMove
  split_ifs with hescaped hslash hclose
  · exact fits_single (.inr rfl) rest
  · exact fits_single (.inr rfl) rest
  · have hlength : lit.closing.length = lit.quote.delimiter.length + lit.hashes := by
      simp [Literal.closing]
    have hcovers : Covers (lit.quote.delimiter ++ spaces lit.hashes) lit.closing :=
      (Covers.refl _).append (Covers.spaces List.length_replicate.symm)
    have := Move.fits_of_start .code lit.closing_ne_nil (closes_iff.1 hclose) hcovers
    rwa [hlength] at this
  · exact fits_single (.inr rfl) rest

lemma fits_codeMove (d : Dialect) (c : Char) (rest : List Char) :
    (codeMove d c rest).Fits c rest := by
  rcases codeMove_cases d c rest with
    ⟨-, h⟩ | ⟨hstart, h⟩ | ⟨quote, hashes, -, -, hstart, -, h⟩ | ⟨-, h⟩ <;> rw [h]
  · refine ⟨le_rfl, Covers.spaces ?_⟩
    simp
  · exact Move.fits_of_start _ (by simp) hstart (Covers.spaces rfl)
  · have hcovers : Covers (spaces hashes ++ quote.delimiter) (d.literal quote hashes).opening :=
      (Covers.spaces List.length_replicate.symm).append (Covers.refl _)
    have := Move.fits_of_start (.literal (d.literal quote hashes) false)
      (Literal.opening_ne_nil _) hstart hcovers
    rwa [d.length_opening] at this
  · exact fits_single (.inl rfl) rest

/-- Every step of the scanner fits. -/
lemma fits_move (d : Dialect) (mode : Mode) (c : Char) (rest : List Char) :
    (move d mode c rest).Fits c rest := by
  cases mode with
  | code => exact fits_codeMove d c rest
  | comment outer => exact fits_commentMove d outer c rest
  | literal lit escaped => exact fits_literalMove lit escaped c rest

/-! ### Lines -/

@[simp] lemma maskLine_nil (d : Dialect) (mode : Mode) :
    maskLine d mode [] = ([], mode.endLine) := by
  rw [maskLine]

lemma drop_eq_of_append_eq {taken body rest : List Char} {c : Char} (hne : taken ≠ [])
    (h : taken ++ body = c :: rest) : rest.drop (taken.length - 1) = body := by
  obtain ⟨a, more, rfl⟩ := List.exists_cons_of_ne_nil hne
  obtain ⟨rfl, rfl⟩ := List.cons.inj h
  exact List.drop_left

/-- A step that takes what stands at the start of a line, and the steps after it. -/
lemma maskLine_append {d : Dialect} {mode next : Mode} {out taken line : List Char}
    (hne : taken ≠ [])
    (hstep : ∀ c rest, taken ++ line = c :: rest →
      move d mode c rest = ⟨next, out, taken.length - 1⟩) :
    maskLine d mode (taken ++ line) =
      (out ++ (maskLine d next line).1, (maskLine d next line).2) := by
  obtain ⟨c, rest, hline⟩ := List.exists_cons_of_ne_nil (List.append_ne_nil_of_left_ne_nil hne line)
  rw [hline, maskLine, hstep c rest hline]
  simp only [drop_eq_of_append_eq hne hline]

/-- A masked line covers the line. -/
lemma covers_maskLine (d : Dialect) (mode : Mode) (line : List Char) :
    Covers (maskLine d mode line).1 line := by
  fun_induction maskLine d mode line with
  | case1 mode => exact .nil
  | case2 mode c rest step tail ih =>
    have hstep : step.Fits c rest := fits_move d mode c rest
    have hline : c :: rest = (c :: rest.take step.more) ++ rest.drop step.more := by
      rw [List.cons_append, List.take_append_drop]
    rw [hline]
    exact hstep.covers.append ih

/-! ### The three languages -/

namespace Dialect

/-- What the conventions of the three languages have in common. -/
structure Regular (d : Dialect) : Prop where
  /-- A comment up to the line end starts with a hash sign or with two slashes. -/
  marker : d.lineComment = ['#'] ∨ d.lineComment = ['/', '/']
  /-- Hash signs fence literals only where they do not start a comment. -/
  fences : d.hashFences = true → d.lineComment = ['/', '/']
  /-- Block comments nest. -/
  nested : d.blockComments = true → d.nestedComments = true

/-- The languages whose sources are masked. -/
def known : List Dialect := [python, kotlin, swift]

lemma regular_of_mem_known {d : Dialect} (hd : d ∈ known) : d.Regular := by
  simp only [known, List.mem_cons, List.not_mem_nil, or_false] at hd
  rcases hd with rfl | rfl | rfl
  · exact ⟨.inl rfl, by decide, by decide⟩
  · exact ⟨.inr rfl, by decide, by decide⟩
  · exact ⟨.inr rfl, by decide, by decide⟩

variable {d : Dialect}

lemma Regular.solid_marker (hd : d.Regular) : Solid d.lineComment := by
  rcases hd.marker with h | h <;> rw [h]
  · exact List.forall_mem_singleton.2 (by decide)
  · exact solid_pair (by decide) (by decide)

lemma Regular.marker_ne_nil (hd : d.Regular) : d.lineComment ≠ [] := by
  rcases hd.marker with h | h <;> rw [h] <;> decide

/-- Nothing opens at a blank. -/
lemma Regular.not_opens_blank (hd : d.Regular) {c : Char} (hc : isBlank c = true)
    (rest : List Char) : ¬ d.Opens (c :: rest) := by
  rintro (h | ⟨-, h⟩ | ⟨-, h⟩)
  · exact hd.solid_marker.not_start hd.marker_ne_nil hc h
  · exact (solid_pair (by decide) (by decide)).not_start (by simp) hc h
  · exact (Literal.solid_opening _).not_start (Literal.opening_ne_nil _) hc h

/-- No comment starts at a quotation mark. -/
lemma Regular.not_lineComment_delimiter (hd : d.Regular) (quote : Quote) (rest : List Char) :
    ¬ d.lineComment <+: quote.delimiter ++ rest := by
  obtain ⟨c, more, hquote, hc, -⟩ := quote.exists_delimiter_eq
  rw [hquote, List.cons_append]
  rcases hd.marker with h | h <;> rw [h, List.cons_prefix_cons] <;>
    rcases hc with rfl | rfl <;> exact fun hstart => absurd hstart.1 (by decide)

/-- No comment starts where a literal opens. -/
lemma Regular.not_lineComment_opening (hd : d.Regular) {quote : Quote} {hashes : Nat}
    (hpermits : d.Permits quote hashes) (rest : List Char) :
    ¬ d.lineComment <+: (d.literal quote hashes).opening ++ rest := by
  cases hashes with
  | zero => exact hd.not_lineComment_delimiter quote rest
  | succ n =>
    rw [hd.fences (hpermits.fenced n.succ_pos).1]
    exact fun hstart => absurd (List.cons_prefix_cons.1 hstart).1 (by decide)

end Dialect

end Strata.Masking

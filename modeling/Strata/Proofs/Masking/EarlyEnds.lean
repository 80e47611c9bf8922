import Strata.Proofs.Masking.Tokens

/-!
# Literals that end early

A source made of tokens is masked token by token exactly if no literal of it holds something that
the scanner takes for its end (`mask_tokens`).  Where a literal does, the scanner writes a quotation
mark in the place of a hidden character, and from there on it takes code for literals and literals
for code.  Two kinds of literals are concerned: a verbatim one that ends in a quotation mark, and
one with hash signs in which an escaped quotation mark has as many hash signs behind it.
-/

namespace Strata.Masking

open Strata.Text

variable {d : Dialect}

/-! ### Texts that part ways -/

/-- A text goes on with a quotation mark where another one, the same so far, has a space. -/
def Strays (text other : List Char) : Prop :=
  ∃ same c rest rest', text = same ++ c :: rest ∧ other = same ++ ' ' :: rest' ∧
    (c = '"' ∨ c = '\'')

lemma Strays.append_left {text other : List Char} (h : Strays text other) (start : List Char) :
    Strays (start ++ text) (start ++ other) := by
  obtain ⟨same, c, rest, rest', rfl, rfl, hc⟩ := h
  exact ⟨start ++ same, c, rest, rest', (List.append_assoc ..).symm,
    (List.append_assoc ..).symm, hc⟩

/-- A character that belongs to no line end stands in its line where it stands in the text. -/
lemma exists_lines_eq_of_ne {line : List Char} (hline : '\n' ∉ line) {c : Char} (hn : c ≠ '\n')
    (hr : c ≠ '\r') (rest : List Char) :
    ∃ more others, lines (line ++ c :: rest) = (line ++ c :: more) :: others := by
  obtain ⟨tail, htail, hrest⟩ := exists_eq_append_tail rest
  have hupTo : IsFirstLine (upToLineEnd rest) tail := ⟨by rw [← hrest], htail⟩
  have hcons : IsFirstLine (c :: upToLineEnd rest) tail :=
    isFirstLine_cons_iff.2 ⟨atLineEnd_cons_eq_false hn hr _, hupTo⟩
  have hfirst : IsFirstLine (line ++ c :: upToLineEnd rest) tail :=
    hcons.append_left hline (by simpa using hn)
  obtain ⟨others, -, hothers⟩ := htail.exists_lines
  have hlines := hothers _ hfirst (by simp)
  rw [List.append_assoc, List.cons_append, ← hrest] at hlines
  exact ⟨_, others, hlines⟩

/-- Texts that part ways have different lines. -/
lemma Strays.lines_ne {text other : List Char} (h : Strays text other) :
    lines text ≠ lines other := by
  obtain ⟨same, c, rest, rest', rfl, rfl, hc⟩ := h
  have hne : c ≠ '\n' ∧ c ≠ '\r' ∧ c ≠ ' ' := by rcases hc with rfl | rfl <;> decide
  have hopen := newline_notMem_openLine same
  obtain ⟨more, others, hlines⟩ := exists_lines_eq_of_ne hopen hne.1 hne.2.1 rest
  obtain ⟨more', others', hlines'⟩ :=
    exists_lines_eq_of_ne hopen (by decide : ' ' ≠ '\n') (by decide) rest'
  intro heq
  rw [lines_append same (c :: rest), lines_append same (' ' :: rest'), hlines, hlines'] at heq
  have hline := (List.cons.inj (List.append_cancel_left heq)).1
  exact hne.2.2 (List.cons.inj (List.append_cancel_left hline)).1

/-! ### The scanner closes a literal early -/

/-- Where a literal is closed early, a quotation mark is written for a hidden character. -/
lemma strays_pieces {quote : Quote} {hashes : Nat} {body : List Piece}
    (h : Piece.WellFormed d quote hashes body)
    (hlines : quote.spansLines = false → '\n' ∉ Piece.source hashes body)
    (hclosed : ¬ Piece.ClosedAtEnd (d.literal quote hashes) body) (after rest : List Char) :
    let lit := d.literal quote hashes
    Strays (scan d (.literal lit false) (Piece.source hashes body ++ (lit.closing ++ after))).1
      (hide (Piece.source hashes body) ++ rest) := by
  intro lit
  obtain ⟨taken, left, hsource, hscan, ⟨more, hmore⟩, hleft⟩ := scans_pieces h hlines after
  obtain ⟨a, others, hquote, ha, -⟩ := quote.exists_delimiter_eq
  have hclosing : lit.closing = a :: (others ++ List.replicate hashes '#') := by
    rw [Literal.closing, show lit.quote.delimiter = a :: others from hquote]
    rfl
  -- what is left of the literal begins like its end
  obtain ⟨left, rfl⟩ : ∃ more, left = a :: more := by
    obtain ⟨c, left, rfl⟩ := List.exists_cons_of_ne_nil fun hnil => hclosed (hleft.2 hnil)
    rw [show (d.literal quote hashes).closing = _ from hclosing] at hmore
    exact ⟨left, by rw [(List.cons.inj hmore).1]⟩
  have hwritten : ∃ written,
      (scan d (.literal lit false) (a :: left ++ (lit.closing ++ after))).1 = a :: written := by
    have hclose : scan d (.literal lit false) (lit.closing ++ (more ++ after)) = (_, _) :=
      scans_closing lit (more ++ after)
    rw [show lit.quote.delimiter = _ from hquote] at hclose
    rw [← List.append_assoc, ← hmore, List.append_assoc]
    exact ⟨_, congrArg Prod.fst hclose⟩
  obtain ⟨written, hwritten⟩ := hwritten
  have hfree : a ≠ '\n' ∧ a ≠ '\r' := by rcases ha with rfl | rfl <;> decide
  have hhidden : hide (taken ++ a :: left) = hide taken ++ ' ' :: hide left := by
    rw [hide_append_of_head (by simpa using hfree.1), hide_cons_of_ne hfree.1 hfree.2]
  have hscan := congrArg Prod.fst hscan
  rw [← List.append_assoc, ← hsource, hwritten] at hscan
  refine ⟨hide taken, a, written, hide left ++ rest, hscan, ?_, ha⟩
  rw [hsource, hhidden, List.append_assoc, List.cons_append]

lemma strays_literal (hd : d.Regular) {quote : Quote} {hashes : Nat} {body : List Piece}
    {after : List Char} (h : LiteralWellFormed d quote hashes body after)
    (hclosed : ¬ (Token.literal quote hashes body).ClosedAtEnd d) (rest : List Char) :
    Strays (scan d .code ((Token.literal quote hashes body).source d ++ after)).1
      ((Token.literal quote hashes body).masked d ++ rest) := by
  have hopening := scans_opening hd h.permits (by rw [← List.append_assoc]; exact h.longest)
  have hscan := congrArg Prod.fst hopening
  rw [List.append_assoc (Piece.source hashes body)] at hscan
  rw [Token.source, Token.masked, List.append_assoc, List.append_assoc, hscan,
    List.append_assoc (spaces hashes ++ quote.delimiter), List.append_assoc (hide _)]
  exact (strays_pieces h.unclosed h.oneLine hclosed after _).append_left _

/-- Sources with a literal that is closed early are not masked token by token. -/
lemma strays_tokens (hd : d.Regular) {tokens : List Token} (h : Tokens.WellFormed d tokens)
    (hclosed : ¬ ∀ token ∈ tokens, token.ClosedAtEnd d) :
    Strays (scan d .code (Tokens.source d tokens)).1 (Tokens.masked d tokens) := by
  induction tokens with
  | nil => exact absurd (List.forall_mem_nil _) hclosed
  | cons token rest ih =>
    obtain ⟨htoken, hrest⟩ := h
    by_cases hfirst : token.ClosedAtEnd d
    · have hothers : ¬ ∀ token ∈ rest, token.ClosedAtEnd d :=
        fun hall => hclosed (List.forall_mem_cons.2 ⟨hfirst, hall⟩)
      have hscan : scan d .code (Tokens.source d (token :: rest)) = _ :=
        scans_token hd htoken hfirst
      rw [hscan]
      exact (ih hrest hothers).append_left (token.masked d)
    · cases token with
      | code _ | lineComment _ | blockComment _ => exact absurd trivial hfirst
      | literal quote hashes body => exact strays_literal hd htoken hfirst _

/-! ### Which literals are closed early -/

lemma Piece.subset_source {hashes : Nat} {body : List Piece} {piece : Piece} (h : piece ∈ body) :
    piece.mark hashes ++ [piece.char] ⊆ source hashes body := by
  obtain ⟨before, after, rfl⟩ := List.append_of_mem h
  induction before with
  | nil => simp [source]
  | cons first before ih =>
    intro c hc
    exact List.mem_append_right _ (List.mem_cons_of_mem _ (ih (by simp) hc))

/-- A body of quotation marks ends in one. -/
lemma Piece.getLast?_of_quotes {hashes : Nat} {body : List Piece} (hne : body ≠ [])
    (h : ∀ a ∈ source hashes body, a = '"') : body.getLast? = some (.plain '"') := by
  rw [List.getLast?_eq_some_getLast hne]
  have hlast : _ ⊆ source hashes body := subset_source (List.getLast_mem hne)
  cases hpiece : body.getLast hne with
  | plain c =>
    rw [hpiece] at hlast
    rw [h c (hlast (by simp [mark, char]))]
  | escaped c =>
    rw [hpiece] at hlast
    have hslash := h '\\' (hlast (by simp [mark]))
    cases hslash

/-- A verbatim literal that does not end in a quotation mark and a literal with hash signs in which
no quotation mark is escaped are closed at their ends, and so are all other ones. -/
lemma closedAtEnd_of_wellFormed {quote : Quote} {hashes : Nat} (hpermits : d.Permits quote hashes)
    {body : List Piece} (h : Piece.WellFormed d quote hashes body)
    (hlast : d.isVerbatim quote = true → body.getLast? ≠ some (.plain '"'))
    (hescaped : 0 < hashes → .escaped '"' ∉ body) :
    Piece.ClosedAtEnd (d.literal quote hashes) body := by
  induction body with
  | nil => trivial
  | cons piece body ih =>
    have hlast' : d.isVerbatim quote = true → body.getLast? ≠ some (.plain '"') := by
      intro hverbatim hbody
      refine hlast hverbatim ?_
      rw [List.getLast?_cons, hbody]
      rfl
    have hescaped' : 0 < hashes → .escaped '"' ∉ body :=
      fun hpos hmem => hescaped hpos (List.mem_cons_of_mem _ hmem)
    refine ⟨fun hskip hclose => ?_, ih h.tail hlast' hescaped'⟩
    cases piece with
    | plain c =>
      obtain ⟨hverbatim, hquotes⟩ := h.2.1 hclose
      exact hlast hverbatim (Piece.getLast?_of_quotes (List.cons_ne_nil _ _) hquotes)
    | escaped c =>
      -- the scanner looks at an escaped character only behind hash signs
      have hraw : (d.literal quote hashes).raw = true := by simpa [Piece.isSkipped] using hskip
      have hpos : 0 < hashes := by
        rcases Bool.or_eq_true_iff.1 hraw with hpos | hverbatim
        · exact of_decide_eq_true hpos
        · have hno : d.isVerbatim quote = false := h.1
          rw [Dialect.isVerbatim, hverbatim] at hno
          cases hno
      refine hescaped hpos ?_
      obtain ⟨a, others, hquote, -, hdouble⟩ := quote.exists_delimiter_eq
      have hdelimiter : (d.literal quote hashes).quote.delimiter = a :: others := hquote
      rw [Literal.closing, hdelimiter, List.cons_append, List.cons_prefix_cons] at hclose
      have hc : c = '"' := hclose.1.symm.trans (hdouble.1 (hpermits.fenced hpos).2)
      rw [hc]
      exact List.mem_cons_self

/-! ### Sources are masked token by token -/

lemma exists_wellFormed_of_mem {tokens : List Token} (h : Tokens.WellFormed d tokens)
    {token : Token} (htoken : token ∈ tokens) : ∃ after, token.WellFormed d after := by
  induction tokens with
  | nil => cases htoken
  | cons first rest ih =>
    rcases List.mem_cons.1 htoken with rfl | hrest
    · exact ⟨_, h.1⟩
    · exact ih h.2 hrest

/-- A source made of well-formed tokens is masked token by token, that is, code and quotation marks
stay, comments, the insides of literals and hash signs around them become spaces, and lines end
where they ended, if and only if no literal holds something that the scanner takes for its end.
Only a verbatim literal that ends in a quotation mark, or one with hash signs in which a quotation
mark is escaped, can hold such a thing. -/
theorem mask_tokens (hd : d ∈ Dialect.known) {tokens : List Token}
    (h : Tokens.WellFormed d tokens) :
    (mask d (Tokens.source d tokens) = lines (Tokens.masked d tokens) ↔
      ∀ token ∈ tokens, token.ClosedAtEnd d) ∧
    ∀ quote hashes body, .literal quote hashes body ∈ tokens →
      (d.isVerbatim quote = true → body.getLast? ≠ some (.plain '"')) →
      (0 < hashes → .escaped '"' ∉ body) → (Token.literal quote hashes body).ClosedAtEnd d := by
  have hregular := Dialect.regular_of_mem_known hd
  refine ⟨⟨fun hmask => ?_, fun hclosed => (maskLines_tokens hregular h hclosed).1⟩, ?_⟩
  · by_contra hclosed
    have hscan : mask d (Tokens.source d tokens) = lines (scan d .code _).1 :=
      (scan_lines rfl (Tokens.source d tokens)).1
    exact (strays_tokens hregular h hclosed).lines_ne (hscan.symm.trans hmask)
  · intro quote hashes body htoken hlast hescaped
    obtain ⟨after, hliteral⟩ := exists_wellFormed_of_mem h htoken
    exact closedAtEnd_of_wellFormed hliteral.permits hliteral.unclosed hlast hescaped

/-- A comment in a comment over two lines, a literal behind two hash signs with a quote and a
backslash in it, a comment up to the line end that holds a quote, and a literal over two lines. -/
def fencedTokens : List Token :=
  let note : CommentBody := .char '"' (.nested (.char '\n' .done) (.char '/' (.char ' ' .done)))
  [.code "import A ".toList, .blockComment note, .code "\nlet x = ".toList,
    .literal .double 2 [.plain '"', .plain '#', .plain '\\'], .lineComment " it\"s".toList,
    .code "\r\nf(".toList,
    .literal .tripleDouble 0 [.plain '"', .plain '\r', .plain '\n', .escaped '"', .plain '/'],
    .code "/ 2)\n".toList]

theorem mask_tokens_fencedTokens :
    Tokens.WellFormed .swift fencedTokens ∧
      Tokens.masked .swift fencedTokens =
        ("import A      \n      \nlet x =   \"   \"         \r\n" ++
          "f(\"\"\" \r\n   \"\"\"/ 2)\n").toList ∧
      mask .swift (Tokens.source .swift fencedTokens) =
        lines (Tokens.masked .swift fencedTokens) := by
  have hwell : Tokens.WellFormed .swift fencedTokens := by decide +kernel
  exact ⟨hwell, by decide +kernel, (mask_tokens (by decide) hwell).1.2 (by decide +kernel)⟩

/-- A verbatim literal that ends in a quotation mark, and code behind it. -/
def quotedTokens : List Token :=
  [.code "val s = ".toList, .literal .tripleDouble 0 ("say \"hi\"".toList.map .plain),
    .code ".trim()".toList]

/-- The first three of the four quotation marks close the literal, and the fourth one hides the code
behind it. -/
theorem mask_tokens_quotedTokens :
    Tokens.WellFormed .kotlin quotedTokens ∧
      Tokens.source .kotlin quotedTokens = "val s = \"\"\"say \"hi\"\"\"\".trim()".toList ∧
      lines (Tokens.masked .kotlin quotedTokens) =
        ["val s = \"\"\"        \"\"\".trim()".toList] ∧
      mask .kotlin (Tokens.source .kotlin quotedTokens) =
        ["val s = \"\"\"       \"\"\"\"       ".toList] := by
  decide +kernel

end Strata.Masking

import Strata.Proofs.Language.CommentLines
import Strata.Proofs.Language.FromImport
import Strata.Proofs.Language.JoinedLines

/-!
# Layouts of a `from` import

A `from` import is a sequence of lexemes, and a layout of it puts fillers between them: blanks,
backslashes at line ends and, inside of brackets, line ends and comments.  The list of names may
stand in brackets, and a comma may follow it then.

A layout is masked bit by bit, since it is a sequence of tokens of the language
(`tokens_wellFormed`).  Its masked lines are put together to one statement, and the words of that
statement are what the bits leave when every filler and every bracket is a space
(`gathers_of_lays`).
-/

namespace Strata.Language.Python

open Strata.Text

/-! ### Lexemes -/

/-- A lexeme of a `from` import. -/
inductive Lexeme where
  /-- A keyword, the module, a name or an alias. -/
  | word (text : List Char)
  /-- The comma between two names, or behind the last one. -/
  | comma
  /-- The bracket before the names. -/
  | opening
  /-- The bracket behind the names. -/
  | closing
deriving DecidableEq, Repr

namespace Lexeme

/-- How a lexeme is written. -/
def source : Lexeme → List Char
  | word text => text
  | comma => [',']
  | opening => ['(']
  | closing => [')']

/-- The number of open brackets behind a lexeme. -/
def depthBehind (depth : Nat) : Lexeme → Nat
  | opening => depth + 1
  | closing => depth - 1
  | word _ | comma => depth

/-- A word is not empty and made of the characters of dotted names. -/
def Plain : Lexeme → Prop
  | word text => text ≠ [] ∧ ∀ c ∈ text, isPlain c = true
  | comma | opening | closing => True

end Lexeme

/-- The lexemes of a name with its alias. -/
def nameLexemes : Identifier × Option Identifier → List Lexeme
  | (name, none) => [.word name.text]
  | (name, some other) => [.word name.text, .word ['a', 's'], .word other.text]

/-- How the list of names stands in a statement. -/
inductive ListForm where
  /-- Without brackets. -/
  | bare
  /-- In brackets, with a comma behind the last name or without. -/
  | bracketed (trailing : Bool)
deriving DecidableEq, Repr

namespace FromImport

/-- The lexemes of the names, with commas between them. -/
def nameList (statement : FromImport) : List Lexeme :=
  [Lexeme.comma].intercalate (statement.names.map nameLexemes)

/-- The lexemes behind the word `import`. -/
def listLexemes (statement : FromImport) : ListForm → List Lexeme
  | .bare => statement.nameList
  | .bracketed trailing =>
    .opening :: (statement.nameList ++ ((if trailing then [.comma] else []) ++ [.closing]))

/-- The lexemes of a statement. -/
def lexemes (statement : FromImport) (form : ListForm) : List Lexeme :=
  .word fromWord :: .word statement.moduleText :: .word importWord :: statement.listLexemes form

end FromImport

/-! ### Layouts -/

/-- What may stand between two lexemes. -/
inductive Filler where
  /-- A blank. -/
  | blank (c : Char)
  /-- A comment with the line end behind it. -/
  | comment (text ending : List Char)
  /-- A backslash with the line end behind it. -/
  | continuation (ending : List Char)
deriving DecidableEq, Repr

namespace Filler

/-- How a filler is written. -/
def source : Filler → List Char
  | blank c => [c]
  | comment text ending => '#' :: (text ++ ending)
  | continuation ending => '\\' :: ending

/-- The filler may stand where `depth` brackets are open: a line ends outside of brackets only
behind a backslash, and a comment does not end before its line does. -/
def Allowed (depth : Nat) : Filler → Prop
  | blank c => isBlank c = true ∧ (c = '\n' → 0 < depth)
  | comment text ending => 0 < depth ∧ ending ∈ lineEnds ∧ IsFirstLine text ending
  | continuation ending => ending ∈ lineEnds

instance (depth : Nat) : (filler : Filler) → Decidable (filler.Allowed depth)
  | blank c => inferInstanceAs (Decidable (isBlank c = true ∧ (c = '\n' → 0 < depth)))
  | comment text ending =>
    inferInstanceAs (Decidable (0 < depth ∧ ending ∈ lineEnds ∧ IsFirstLine text ending))
  | continuation ending => inferInstanceAs (Decidable (ending ∈ lineEnds))

end Filler

/-- A lexeme or a filler. -/
inductive Bit where
  /-- A lexeme of the statement. -/
  | lexeme (l : Lexeme)
  /-- Something that stands between lexemes. -/
  | filler (f : Filler)
deriving DecidableEq, Repr

namespace Bit

/-- How a bit is written. -/
def source : Bit → List Char
  | lexeme l => l.source
  | filler f => f.source

/-- The lexeme, if the bit is one. -/
def lexeme? : Bit → Option Lexeme
  | lexeme l => some l
  | filler _ => none

end Bit

/-- Whether another word follows a word at once. -/
def clash : Lexeme → List Bit → Bool
  | .word _, .lexeme (.word _) :: _ => true
  | _, _ => false

/-- The bits are laid out behind `depth` open brackets: fillers stand where they may, some filler
stands between two words, no filler stands at the end, and all brackets are closed there. -/
def Lays (depth : Nat) : List Bit → Prop
  | [] => depth = 0
  | .lexeme l :: rest => clash l rest = false ∧ Lays (l.depthBehind depth) rest
  | .filler f :: rest => f.Allowed depth ∧ rest ≠ [] ∧ Lays depth rest

instance Lays.decidable : (depth : Nat) → (bits : List Bit) → Decidable (Lays depth bits)
  | depth, [] => inferInstanceAs (Decidable (depth = 0))
  | depth, .lexeme l :: rest =>
    have := Lays.decidable (l.depthBehind depth) rest
    inferInstanceAs (Decidable (clash l rest = false ∧ Lays (l.depthBehind depth) rest))
  | depth, .filler f :: rest =>
    have := Lays.decidable depth rest
    inferInstanceAs (Decidable (f.Allowed depth ∧ rest ≠ [] ∧ Lays depth rest))

/-- The bits are a layout of the statement.  The word `from` is followed by a space. -/
structure IsLayout (statement : FromImport) (bits : List Bit) : Prop where
  lexemes : ∃ form, bits.filterMap Bit.lexeme? = statement.lexemes form
  starts : [.lexeme (.word fromWord), .filler (.blank ' ')] <+: bits
  lays : Lays 0 bits

/-- How bits are written. -/
def written (bits : List Bit) : List Char := bits.flatMap Bit.source

/-! ### Masking -/

/-- The bits of a layout as tokens of a source. -/
def Bit.tokens : Bit → List Masking.Token
  | lexeme l => [.code l.source]
  | filler (.blank c) => [.code [c]]
  | filler (.comment text ending) => [.lineComment text, .code ending]
  | filler (.continuation ending) => [.code ('\\' :: ending)]

/-- How a bit is masked. -/
def Bit.masked : Bit → List Char
  | lexeme l => l.source
  | filler (.blank c) => [c]
  | filler (.comment text ending) => Masking.spaces (text.length + 1) ++ ending
  | filler (.continuation ending) => '\\' :: ending

/-- How the bits of a layout are masked. -/
def maskedBits (bits : List Bit) : List Char := bits.flatMap Bit.masked

/-- No bit of a layout is a literal. -/
lemma closedAtEnd_tokens (bits : List Bit) :
    ∀ token ∈ bits.flatMap Bit.tokens, token.ClosedAtEnd .python := by
  intro token htoken
  obtain ⟨bit, -, htoken⟩ := List.mem_flatMap.1 htoken
  rcases bit with l | (c | ⟨text, ending⟩ | ending) <;>
    simp only [Bit.tokens, List.mem_cons, List.not_mem_nil, or_false] at htoken <;>
    rcases htoken with rfl | rfl <;> trivial

lemma source_tokens (bits : List Bit) :
    Masking.Tokens.source .python (bits.flatMap Bit.tokens) = written bits := by
  rw [Masking.Tokens.source, List.flatMap_assoc, written]
  congr 1
  funext bit
  rcases bit with l | (c | ⟨text, ending⟩ | ending) <;>
    simp [Bit.tokens, Masking.Token.source, Bit.source, Filler.source, Masking.Dialect.python]

lemma masked_tokens (bits : List Bit) :
    Masking.Tokens.masked .python (bits.flatMap Bit.tokens) = maskedBits bits := by
  rw [Masking.Tokens.masked, List.flatMap_assoc, maskedBits]
  congr 1
  funext bit
  rcases bit with l | (c | ⟨text, ending⟩ | ending) <;>
    simp [Bit.tokens, Masking.Token.masked, Bit.masked, Masking.Dialect.python, Nat.add_comm]

/-- Whether a character opens no comment and no literal. -/
def isCode (c : Char) : Bool := c != '#' && c != '"' && c != '\''

lemma not_opens_of_isCode {c : Char} (hc : isCode c = true) (rest : List Char) :
    ¬ Masking.Dialect.python.Opens (c :: rest) := by
  have hne : c ≠ '#' ∧ c ≠ '"' ∧ c ≠ '\'' := by simpa [isCode, and_assoc] using hc
  rintro (h | ⟨hblock, -⟩ | @⟨quote, hashes, -, h⟩)
  · exact hne.1 (List.cons_prefix_cons.1 h).1.symm
  · cases hblock
  · -- a literal opens with a hash sign or with a quotation mark
    cases hashes with
    | succ hashes => exact hne.1 (List.cons_prefix_cons.1 h).1.symm
    | zero =>
      obtain ⟨a, more, hquote, ha, -⟩ := quote.exists_delimiter_eq
      have hopening : (Masking.Dialect.python.literal quote 0).opening = a :: more := hquote
      rw [hopening] at h
      obtain rfl : a = c := (List.cons_prefix_cons.1 h).1
      exact ha.elim hne.2.1 hne.2.2

/-- Text without hash signs and quotation marks is code. -/
lemma unopened_of_isCode {text : List Char} (h : ∀ c ∈ text, isCode c = true) (after : List Char) :
    Masking.Unopened .python after text := by
  induction text with
  | nil => trivial
  | cons c text ih =>
    obtain ⟨hc, htext⟩ := List.forall_mem_cons.1 h
    exact ⟨not_opens_of_isCode hc _, ih htext⟩

lemma isCode_of_not_mem {c : Char} (hc : c ∉ joints) : isCode c = true := by
  simp only [joints, List.mem_cons, not_or] at hc
  simp [isCode, hc]

lemma isCode_of_isBlank {c : Char} (hc : isBlank c = true) : isCode c = true :=
  isCode_of_not_mem (not_mem_joints_of_isBlank hc)

lemma blank_of_mem_lineEnds {ending : List Char} (h : ending ∈ lineEnds) : Blank ending := by
  simp only [lineEnds, List.mem_cons, List.not_mem_nil, or_false] at h
  rcases h with rfl | rfl <;> exact List.all_eq_true.1 (by decide)

lemma Lexeme.Plain.isCode_of_mem {l : Lexeme} (hl : l.Plain) {c : Char} (hc : c ∈ l.source) :
    isCode c = true := by
  cases l with
  | word text => exact isCode_of_not_mem (not_mem_joints_of_isPlain (hl.2 c hc))
  | comma | opening | closing =>
    rw [List.mem_singleton.1 hc]
    decide

/-- The words of a list of bits are plain. -/
def PlainWords (bits : List Bit) : Prop := ∀ l, Bit.lexeme l ∈ bits → l.Plain

lemma PlainWords.tail {bit : Bit} {rest : List Bit} (h : PlainWords (bit :: rest)) :
    PlainWords rest :=
  fun l hl => h l (List.mem_cons_of_mem _ hl)

/-- A layout is a sequence of tokens of the language. -/
lemma tokens_wellFormed {bits : List Bit} (hplain : PlainWords bits) {depth : Nat}
    (hlays : Lays depth bits) : Masking.Tokens.WellFormed .python (bits.flatMap Bit.tokens) := by
  induction bits generalizing depth with
  | nil => trivial
  | cons bit rest ih =>
    rw [List.flatMap_cons]
    cases bit with
    | lexeme l =>
      have hl := hplain l List.mem_cons_self
      exact ⟨unopened_of_isCode (fun c hc => hl.isCode_of_mem hc) _, ih hplain.tail hlays.2⟩
    | filler f =>
      obtain ⟨hallowed, -, hlays⟩ := hlays
      have hrest := ih hplain.tail hlays
      cases f with
      | blank c =>
        have hc : ∀ a ∈ [c], isCode a = true := by simpa using isCode_of_isBlank hallowed.1
        exact ⟨unopened_of_isCode hc _, hrest⟩
      | comment text ending =>
        obtain ⟨-, hending, hfirst⟩ := hallowed
        have hcode : ∀ a ∈ ending, isCode a = true :=
          fun a ha => isCode_of_isBlank (blank_of_mem_lineEnds hending a ha)
        exact ⟨hfirst.append hending _, unopened_of_isCode hcode _, hrest⟩
      | continuation ending =>
        have hcode : ∀ a ∈ '\\' :: ending, isCode a = true := by
          refine List.forall_mem_cons.2 ⟨by decide, fun a ha => ?_⟩
          exact isCode_of_isBlank (blank_of_mem_lineEnds hallowed a ha)
        exact ⟨unopened_of_isCode hcode _, hrest⟩

/-! ### The statement that is put together -/

/-- What is left of a bit when lines are joined and brackets are dropped: of a filler, a space. -/
def Bit.view : Bit → List Char
  | lexeme l => l.source.map unbracket
  | filler _ => [' ']

/-- What is left of the bits of a layout. -/
def viewBits (bits : List Bit) : List Char := bits.flatMap Bit.view

lemma Lexeme.Plain.bracketDepth_source {l : Lexeme} (hl : l.Plain) (depth : Nat) :
    bracketDepth depth l.source = l.depthBehind depth := by
  cases l with
  | word text =>
    exact bracketDepth_of_not_mem depth fun c hc => not_mem_joints_of_isPlain (hl.2 c hc)
  | comma | opening | closing => rfl

lemma Lexeme.Plain.source_ne_nil {l : Lexeme} (hl : l.Plain) : l.source ≠ [] := by
  cases l with
  | word text => exact hl.1
  | comma | opening | closing => exact List.cons_ne_nil _ _

/-- The start of a line, with neither a line end nor a backslash in it. -/
def LineStart (line : List Char) : Prop := ∀ c ∈ line, c ≠ '\n' ∧ c ≠ '\\'

namespace LineStart

variable {line more : List Char}

lemma nil : LineStart [] := fun _ hc => absurd hc List.not_mem_nil

lemma append (h : LineStart line) (hmore : LineStart more) : LineStart (line ++ more) := by
  intro c hc
  rcases List.mem_append.1 hc with hc | hc
  · exact h c hc
  · exact hmore c hc

lemma newline_notMem (h : LineStart line) : '\n' ∉ line := fun hmem => (h _ hmem).1 rfl

lemma backslash_notMem (h : LineStart line) : '\\' ∉ line := fun hmem => (h _ hmem).2 rfl

end LineStart

lemma lineStart_spaces (n : Nat) : LineStart (Masking.spaces n) := by
  intro c hc
  rw [(List.mem_replicate.1 hc).2]
  decide

lemma Lexeme.Plain.lineStart {l : Lexeme} (hl : l.Plain) : LineStart l.source := by
  intro c hc
  cases l with
  | word text =>
    have hplain := hl.2 c hc
    exact ⟨ne_of_class hplain (by decide), ne_of_class hplain (by decide)⟩
  | comma | opening | closing =>
    rw [List.mem_singleton.1 hc]
    decide

/-- A space stands for a filler. -/
lemma words_filler (line : List Char) (f : Filler) (rest : List Bit) :
    words (line.map unbracket ++ viewBits (.filler f :: rest)) =
      phrase line ++ words (viewBits rest) :=
  words_append_cons (by decide) _ _

/-- From a place on where a line reads `line` so far, the lines of the bits are put together to one
statement: it takes all these lines, and its words are those that the bits leave. -/
def Gathers (depth : Nat) (line : List Char) (bits : List Bit) : Prop :=
  ∀ (sofar : List Char) (after : List (List Char)), ∃ statement,
    gather sofar depth (lines (line ++ maskedBits bits) ++ after) =
        (statement, (lines (line ++ maskedBits bits)).length) ∧
      phrase statement = phrase sofar ++ words (line.map unbracket ++ viewBits bits)

namespace Gathers

variable {depth : Nat} {line : List Char} {rest : List Bit}

lemma nil (hline : LineStart line) (hne : line ≠ []) (hclosed : bracketDepth depth line = 0) :
    Gathers depth line [] := by
  intro sofar after
  have hlines : lines (line ++ maskedBits []) = [line] := by
    rw [maskedBits, List.flatMap_nil, List.append_nil]
    exact lines_of_not_mem hne hline.newline_notMem
  refine ⟨extend sofar (linePart line), ?_, ?_⟩
  · rw [hlines]
    exact gather_last hclosed hline.backslash_notMem sofar after
  · rw [phrase_extend, phrase_linePart hline.backslash_notMem, viewBits, List.flatMap_nil,
      List.append_nil]
    rfl

lemma lexeme {l : Lexeme} (h : Gathers depth (line ++ l.source) rest) :
    Gathers depth line (.lexeme l :: rest) := by
  intro sofar after
  obtain ⟨statement, hgather, hphrase⟩ := h sofar after
  rw [List.append_assoc] at hgather
  rw [List.map_append, List.append_assoc] at hphrase
  exact ⟨statement, hgather, hphrase⟩

lemma blank {c : Char} (hc : isBlank c = true) (h : Gathers depth (line ++ [c]) rest) :
    Gathers depth line (.filler (.blank c) :: rest) := by
  intro sofar after
  obtain ⟨statement, hgather, hphrase⟩ := h sofar after
  rw [List.append_assoc] at hgather
  refine ⟨statement, hgather, hphrase.trans ?_⟩
  rw [words_filler, List.map_append, List.append_assoc, List.map_singleton, List.singleton_append,
    words_append_cons (isBlank_unbracket hc)]
  rfl

/-- A filler that ends the line `full`: the rest is put together from the start of a line. -/
lemma lineEnd {f : Filler} {full ending : List Char}
    (hmasked : line ++ maskedBits (.filler f :: rest) = full ++ (ending ++ maskedBits rest))
    (hfull : '\n' ∉ full) (hending : ending ∈ lineEnds)
    (hopen : 0 < bracketDepth depth full ∨ (trim full).getLast? = some '\\')
    (hpart : phrase (linePart full) = phrase line)
    (h : Gathers (bracketDepth depth full) [] rest) : Gathers depth line (.filler f :: rest) := by
  intro sofar after
  obtain ⟨statement, hgather, hphrase⟩ := h (extend sofar (linePart full)) after
  rw [hmasked]
  refine ⟨statement, gather_break hfull hending hopen hgather, ?_⟩
  rw [hphrase, phrase_extend, hpart, words_filler, List.append_assoc]
  rfl

lemma newline (hline : LineStart line) (hopen : 0 < bracketDepth depth line)
    (h : Gathers (bracketDepth depth line) [] rest) :
    Gathers depth line (.filler (.blank '\n') :: rest) :=
  lineEnd rfl hline.newline_notMem (by decide : ['\n'] ∈ lineEnds) (.inl hopen)
    (phrase_linePart hline.backslash_notMem) h

lemma comment {text ending : List Char} (hline : LineStart line) (hending : ending ∈ lineEnds)
    (hopen : 0 < bracketDepth depth line) (h : Gathers (bracketDepth depth line) [] rest) :
    Gathers depth line (.filler (.comment text ending) :: rest) := by
  have hspaces : Blank (Masking.spaces (text.length + 1)) := Masking.blank_spaces _
  have hfull : LineStart (line ++ Masking.spaces (text.length + 1)) :=
    hline.append (lineStart_spaces _)
  have hdepth : bracketDepth depth (line ++ Masking.spaces (text.length + 1)) =
      bracketDepth depth line := by
    rw [bracketDepth_append, bracketDepth_blank _ hspaces]
  have hpart : phrase (linePart (line ++ Masking.spaces (text.length + 1))) = phrase line := by
    rw [phrase_linePart hfull.backslash_notMem, phrase_append_blank line hspaces]
  have hmasked : line ++ maskedBits (.filler (.comment text ending) :: rest) =
      line ++ Masking.spaces (text.length + 1) ++ (ending ++ maskedBits rest) := by
    simp [maskedBits, Bit.masked]
  rw [← hdepth] at hopen h
  exact lineEnd hmasked hfull.newline_notMem hending (.inl hopen) hpart h

lemma continuation {ending : List Char} (hline : LineStart line) (hending : ending ∈ lineEnds)
    (h : Gathers (bracketDepth depth line) [] rest) :
    Gathers depth line (.filler (.continuation ending) :: rest) := by
  have hdepth : bracketDepth depth (line ++ ['\\']) = bracketDepth depth line := by
    rw [bracketDepth_append]
    rfl
  have hlast : (trim (line ++ ['\\'])).getLast? = some '\\' := by
    rw [trim_concat line (by decide), List.getLast?_concat]
  have hmasked : line ++ maskedBits (.filler (.continuation ending) :: rest) =
      line ++ ['\\'] ++ (ending ++ maskedBits rest) := by
    simp [maskedBits, Bit.masked]
  rw [← hdepth] at h
  exact lineEnd hmasked (by simp [hline.newline_notMem]) hending (.inr hlast)
    (phrase_linePart_backslash hline.backslash_notMem) h

end Gathers

/-- The lines of a layout are put together to one statement. -/
lemma gathers_of_lays {bits : List Bit} (hplain : PlainWords bits) {depth : Nat} {line : List Char}
    (hline : LineStart line) (hlays : Lays (bracketDepth depth line) bits)
    (hne : line ≠ [] ∨ bits ≠ []) : Gathers depth line bits := by
  induction bits generalizing depth line with
  | nil => exact .nil hline (hne.resolve_right (by simp)) hlays
  | cons bit rest ih =>
    cases bit with
    | lexeme l =>
      have hl := hplain l List.mem_cons_self
      obtain ⟨-, hlays⟩ := hlays
      rw [← hl.bracketDepth_source, ← bracketDepth_append] at hlays
      have hsource : line ++ l.source ≠ [] :=
        List.append_ne_nil_of_right_ne_nil _ hl.source_ne_nil
      exact .lexeme (ih hplain.tail (hline.append hl.lineStart) hlays (.inl hsource))
    | filler f =>
      obtain ⟨hallowed, hrest, hlays⟩ := hlays
      -- what is behind a line end begins with no characters before it on its line
      have hnext : Gathers (bracketDepth depth line) [] rest :=
        ih hplain.tail .nil hlays (.inr hrest)
      cases f with
      | blank c =>
        obtain ⟨hblank, hbracket⟩ := hallowed
        by_cases hc : c = '\n'
        · subst hc
          exact .newline hline (hbracket rfl) hnext
        · have hstart : LineStart [c] :=
            List.forall_mem_singleton.2 ⟨hc, ne_of_class hblank (by decide)⟩
          have hsame : bracketDepth depth (line ++ [c]) = bracketDepth depth line := by
            rw [bracketDepth_append, bracketDepth_blank _ (List.forall_mem_singleton.2 hblank)]
          rw [← hsame] at hlays
          exact .blank hblank (ih hplain.tail (hline.append hstart) hlays (.inl (by simp)))
      | comment text ending => exact .comment hline hallowed.2.1 hallowed.1 hnext
      | continuation ending => exact .continuation hline hallowed hnext

end Strata.Language.Python

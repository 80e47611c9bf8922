import Strata.Proofs.Language.CommentLines
import Strata.Proofs.Language.HeaderLines

/-!
# Kotlin headers

A header is a package, if there is one, and a list of imports.  It can be written in many ways:
with blanks and comments before and behind each statement and on lines of their own, with semicolons
or without.  A rendering of a header is a sequence of statements, as they are written, and of blanks
and comments, in which no two statements stand on one line (`Laid`).  Whatever the rendering is, the
outline of the source holds the package and the imports, each with the number of its line
(`outline_header`).
-/

namespace Strata.Language.Kotlin

open Strata.Text Strata.Pattern Strata.Masking

/-- A name as text. -/
def DottedName.string (name : DottedName) : String := String.ofList name.text

/-! ### Statements -/

/-- What an import takes from a package. -/
inductive Form where
  /-- The named thing. -/
  | plain
  /-- The named thing, under another name. -/
  | aliased (word : Word)
  /-- Everything in the named package. -/
  | all

/-- What an import refers to. -/
def Form.target (name : DottedName) : Form → Target
  | plain | aliased _ => .name name.string
  | all => .wildcard name.string

/-- A statement of a header. -/
inductive Statement where
  /-- The package that the file belongs to. -/
  | package (name : DottedName)
  /-- An import. -/
  | imports (name : DottedName) (form : Form)

/-- Blanks inside of a line. -/
structure Gap (text : List Char) : Prop where
  blank : Blank text
  oneLine : '\n' ∉ text

/-- How it is written what an import takes from a package. -/
inductive Form.Spelled : Form → List Char → Prop where
  /-- Nothing follows the name. -/
  | plain : Spelled .plain []
  /-- The word `as` and the other name follow. -/
  | aliased (word : Word) {gap gap' : List Char} (hgap : Gap gap) (hne : gap ≠ [])
      (hgap' : Gap gap') (hne' : gap' ≠ []) :
      Spelled (.aliased word) (gap ++ ("as".toList ++ (gap' ++ word.text)))
  /-- A dot and a star follow. -/
  | all : Spelled .all (dotStar true)

/-- How a statement may end. -/
inductive Ending : List Char → Prop where
  /-- With its last word. -/
  | bare : Ending []
  /-- With a semicolon. -/
  | semicolon {gap : List Char} (hgap : Gap gap) : Ending (gap ++ [';'])

/-- How a statement is written on a line.  Blanks may stand wherever two parts of the statement meet,
but not inside of a name. -/
inductive Statement.Spelled : Statement → List Char → Prop where
  /-- A package. -/
  | package (name : DottedName) {gap ending : List Char} (hgap : Gap gap) (hne : gap ≠ [])
      (hending : Ending ending) :
      Spelled (.package name) ("package".toList ++ (gap ++ (name.text ++ ending)))
  /-- An import. -/
  | imports (name : DottedName) {form : Form} {gap written ending : List Char} (hgap : Gap gap)
      (hne : gap ≠ []) (hform : form.Spelled written) (hending : Ending ending) :
      Spelled (.imports name form) ("import".toList ++ (gap ++ (name.text ++ (written ++ ending))))

namespace Statement

/-- The package that a statement names. -/
def package? : Statement → Option DottedName
  | package name => some name
  | imports _ _ => none

/-- What a statement imports. -/
def import? : Statement → Option (DottedName × Form)
  | package _ => none
  | imports name form => some (name, form)

/-- The import that is found if a statement is written on a line. -/
def importAt? (line : Nat) (s : Statement) (text : List Char) : Option Import :=
  s.import?.map fun entry =>
    { line := line, statement := String.ofList text, target := entry.2.target entry.1 }

end Statement

variable {s : Statement} {pre text post : List Char}

/-- Everything behind the name, with the blanks at the end of the line, is an end of an import. -/
lemma Ending.endsImport {renamed ending : List Char} (h : Ending ending)
    (hrenamed : IsAlias renamed ∨ renamed = []) (hpost : Blank post) :
    EndsImport (renamed ++ (ending ++ post)) := by
  cases h with
  | bare =>
    exact ⟨renamed, post, [], [], by simp, hrenamed, hpost, .inr rfl, List.forall_mem_nil _⟩
  | @semicolon gap hgap =>
    exact ⟨renamed, gap, [';'], post, by simp, hrenamed, hgap.blank, .inl rfl, hpost⟩

/-- Behind the name stand a dot and a star, or an alias, or nothing. -/
lemma Form.Spelled.exists_eq {form : Form} {written : List Char} (h : form.Spelled written)
    (name : DottedName) : ∃ all renamed, written = dotStar all ++ renamed ∧
      (IsAlias renamed ∨ renamed = []) ∧
      form.target name = if all then .wildcard name.string else .name name.string := by
  cases h with
  | plain => exact ⟨false, [], rfl, .inr rfl, rfl⟩
  | @aliased word gap gap' hgap hne hgap' hne' =>
    exact ⟨false, _, rfl, .inl ⟨gap, gap', word.text, rfl, ⟨hne, hgap.blank⟩, ⟨hne', hgap'.blank⟩,
      word.ne_nil, word.isWord_of_mem⟩, rfl⟩
  | all => exact ⟨true, [], rfl, .inr rfl, rfl⟩

lemma isBlank_getLast?_append (u : List Char) {v : List Char} (hne : v ≠ [])
    (hv : ∀ c ∈ v, isBlank c = false) : ∀ c ∈ (u ++ v).getLast?, isBlank c = false := by
  intro c hc
  rw [List.getLast?_append_of_ne_nil u hne] at hc
  exact hv c (List.mem_of_getLast? hc)

lemma Ending.isBlank_getLast? {ending : List Char} (h : Ending ending) {u : List Char}
    (hu : ∀ c ∈ u.getLast?, isBlank c = false) :
    ∀ c ∈ (u ++ ending).getLast?, isBlank c = false := by
  cases h with
  | bare => rwa [List.append_nil]
  | @semicolon gap hgap =>
    rw [← List.append_assoc]
    exact isBlank_getLast?_append _ (by simp) (List.forall_mem_singleton.2 (by decide))

lemma Form.Spelled.isBlank_getLast? {form : Form} {written : List Char} (h : form.Spelled written)
    (u : List Char) (name : DottedName) :
    ∀ c ∈ (u ++ (name.text ++ written)).getLast?, isBlank c = false := by
  cases h with
  | plain =>
    rw [List.append_nil]
    exact isBlank_getLast?_append u name.text_ne_nil fun c hc =>
      isBlank_eq_false_of_inName (name.inName_of_mem c hc)
  | aliased word hgap hne hgap' hne' =>
    simp only [← List.append_assoc]
    exact isBlank_getLast?_append _ word.ne_nil fun c hc =>
      isBlank_eq_false_of_inName (inName_iff.2 (.inl (word.isWord_of_mem c hc)))
  | all =>
    have hink : (dotStar true).all (fun c => !isBlank c) = true := by decide
    rw [← List.append_assoc]
    exact isBlank_getLast?_append _ (by decide) (by simpa using hink)

/-- A character that can stand in a statement. -/
def InStatement (c : Char) : Prop :=
  (isBlank c = true ∧ c ≠ '\n') ∨ isWord c = true ∨ c ∈ ['.', '*', ';']

instance (c : Char) : Decidable (InStatement c) := inferInstanceAs (Decidable (_ ∨ _))

lemma inStatement_of_inName {c : Char} (hc : inName c = true) : InStatement c := by
  rcases inName_iff.1 hc with hword | rfl
  · exact .inr (.inl hword)
  · exact .inr (.inr (by decide))

lemma inStatement_of_mem_keyword {keyword : String}
    (hkeyword : keyword.toList.all isWord = true) : ∀ c ∈ keyword.toList, InStatement c :=
  fun c hc => .inr (.inl (List.all_eq_true.1 hkeyword c hc))

lemma Gap.inStatement {gap : List Char} (h : Gap gap) : ∀ c ∈ gap, InStatement c :=
  fun c hc => .inl ⟨h.blank c hc, fun heq => h.oneLine (heq ▸ hc)⟩

lemma Ending.inStatement {ending : List Char} (h : Ending ending) :
    ∀ c ∈ ending, InStatement c := by
  cases h with
  | bare => exact List.forall_mem_nil _
  | semicolon hgap =>
    exact List.forall_mem_append.2 ⟨hgap.inStatement, List.forall_mem_singleton.2
      (.inr (.inr (by decide)))⟩

lemma Form.Spelled.inStatement {form : Form} {written : List Char} (h : form.Spelled written) :
    ∀ c ∈ written, InStatement c := by
  cases h with
  | plain => exact List.forall_mem_nil _
  | aliased word hgap hne hgap' hne' =>
    simp only [List.forall_mem_append]
    exact ⟨hgap.inStatement, inStatement_of_mem_keyword (by decide), hgap'.inStatement,
      fun c hc => .inr (.inl (word.isWord_of_mem c hc))⟩
  | all =>
    have hmarks : (dotStar true).all (fun c => ['.', '*', ';'].contains c) = true := by decide
    exact fun c hc => .inr (.inr (List.contains_iff_mem.1 (List.all_eq_true.1 hmarks c hc)))

namespace Statement.Spelled

lemma ne_nil (h : s.Spelled text) : text ≠ [] := by
  cases h <;> simp

lemma isBlank_head? (h : s.Spelled text) : ∀ c ∈ text.head?, isBlank c = false := by
  cases h <;>
  · rintro c ⟨⟩
    decide

lemma isBlank_getLast? (h : s.Spelled text) : ∀ c ∈ text.getLast?, isBlank c = false := by
  cases h with
  | @package name gap ending hgap hne hending =>
    rw [← List.append_assoc, ← List.append_assoc]
    exact hending.isBlank_getLast? (isBlank_getLast?_append _ name.text_ne_nil fun c hc =>
      isBlank_eq_false_of_inName (name.inName_of_mem c hc))
  | @imports name form gap written ending hgap hne hform hending =>
    have hlast := hending.isBlank_getLast? (hform.isBlank_getLast? ("import".toList ++ gap) name)
    simpa only [List.append_assoc] using hlast

lemma inStatement (h : s.Spelled text) : ∀ c ∈ text, InStatement c := by
  cases h with
  | package name hgap hne hending =>
    simp only [List.forall_mem_append]
    exact ⟨inStatement_of_mem_keyword (by decide), hgap.inStatement,
      fun c hc => inStatement_of_inName (name.inName_of_mem c hc), hending.inStatement⟩
  | imports name hgap hne hform hending =>
    simp only [List.forall_mem_append]
    exact ⟨inStatement_of_mem_keyword (by decide), hgap.inStatement,
      fun c hc => inStatement_of_inName (name.inName_of_mem c hc), hform.inStatement,
      hending.inStatement⟩

lemma newline_notMem (h : s.Spelled text) : '\n' ∉ text :=
  fun hmem => absurd (h.inStatement _ hmem) (by decide)

lemma trim_eq (h : s.Spelled text) (hpre : Blank pre) (hpost : Blank post) :
    trim (pre ++ (text ++ post)) = text := by
  rw [trim_blank_append hpre, trim_append_blank _ hpost,
    trim_eq_self h.isBlank_head? h.isBlank_getLast?]

/-- The import of a statement is found on its line, whatever blanks stand around it. -/
lemma importOf? (h : s.Spelled text) (hpre : Blank pre) (hpost : Blank post) (number : Nat) :
    Kotlin.importOf? number (pre ++ (text ++ post)) = s.importAt? number text := by
  have htrim := h.trim_eq hpre hpost
  cases h with
  | @package name gap ending hgap hne hending =>
    have hnone : importLine.match? (pre ++ ("package".toList ++ (gap ++ (name.text ++ ending)) ++
        post)) = none := by
      rw [List.append_assoc, List.append_assoc, importLine_eq]
      exact match?_keyworded_eq_none hpre (by decide) (by decide) (by decide) ⟨hne, hgap.blank⟩
    rw [Kotlin.importOf?, hnone]
    rfl
  | @imports name form gap written ending hgap hne hform hending =>
    obtain ⟨all, renamed, rfl, hrenamed, htarget⟩ := hform.exists_eq name
    have hreads : ReadsImport name.text all (pre ++ ("import".toList ++ (gap ++ (name.text ++
        ((dotStar all ++ renamed) ++ ending))) ++ post)) := by
      simp only [List.append_assoc]
      exact .intro hpre ⟨hne, hgap.blank⟩ ⟨name.text_ne_nil, name.inName_of_mem⟩
        (hending.endsImport hrenamed hpost)
    obtain ⟨found, hfound, hname, hall⟩ := hreads.exists_match?
    rw [Kotlin.importOf?, hfound, Option.map_some, htrim, hname, hall, Statement.importAt?,
      Statement.import?, Option.map_some, htarget]
    rfl

/-- So is its package. -/
lemma packageOf? (h : s.Spelled text) (hpre : Blank pre) (hpost : Blank post) :
    Kotlin.packageOf? (pre ++ (text ++ post)) = s.package?.map DottedName.string := by
  cases h with
  | @package name gap ending hgap hne hending =>
    simp only [List.append_assoc]
    exact packageOf?_keyword hpre ⟨hne, hgap.blank⟩ ⟨name.text_ne_nil, name.inName_of_mem⟩
      (hending.endsImport (.inr rfl) hpost).inName_head?
  | @imports name form gap written ending hgap hne hform hending =>
    have hnone : packageLine.match? (pre ++ ("import".toList ++ (gap ++ (name.text ++
        (written ++ ending))) ++ post)) = none := by
      rw [List.append_assoc, List.append_assoc]
      exact match?_keyworded_eq_none hpre (by decide) (by decide) (by decide) ⟨hne, hgap.blank⟩
    rw [Kotlin.packageOf?, hnone]
    rfl

/-- A statement declares nothing. -/
lemma exportOf? (h : s.Spelled text) (hpre : Blank pre) :
    Kotlin.exportOf? (pre ++ (text ++ post)) = none := by
  cases h with
  | package name hgap hne hending =>
    rw [List.append_assoc, List.append_assoc]
    exact exportOf?_keyword hpre (by decide) ⟨hne, hgap.blank⟩
  | imports name hgap hne hform hending =>
    rw [List.append_assoc, List.append_assoc]
    exact exportOf?_keyword hpre (by decide) ⟨hne, hgap.blank⟩

end Statement.Spelled

/-! ### Renderings -/

/-- A part of a rendering. -/
inductive Entry where
  /-- A statement, as it is written. -/
  | statement (s : Statement) (text : List Char)
  /-- Blanks or a comment. -/
  | silent (token : Token)

namespace Entry

/-- A part as a token of the source. -/
def token : Entry → Token
  | statement _ text => .code text
  | silent token => token

/-- The statement that a part is. -/
def statement? : Entry → Option Statement
  | statement s _ => some s
  | silent _ => none

end Entry

variable {entries : List Entry}

/-- The source that a rendering gives. -/
def rendered (entries : List Entry) : List Char := Tokens.source .kotlin (entries.map Entry.token)

/-- The statements of a rendering are spelled, comments and blanks are read as such, and no two
statements stand on one line; there is a statement on the first line already if it is `busy`. -/
def Laid : (busy : Bool) → List Entry → Prop
  | _, [] => True
  | busy, .statement s text :: rest => busy = false ∧ s.Spelled text ∧ Laid true rest
  | busy, .silent token :: rest =>
    token.Silent ∧ token.WellFormed .kotlin (rendered rest) ∧
      Laid (busy && !(token.source .kotlin).contains '\n') rest

/-- The statements of a rendering, each with the number of its line and as it is written. -/
def numbered : (line : Nat) → List Entry → List (Nat × Statement × List Char)
  | _, [] => []
  | line, .statement s text :: rest => (line, s, text) :: numbered line rest
  | line, .silent token :: rest => numbered (line + (token.source .kotlin).count '\n') rest

/-- A rendering of a package and of imports. -/
structure Renders (package : Option DottedName) (imports : List (DottedName × Form))
    (entries : List Entry) : Prop where
  laid : Laid false entries
  /-- The package is named once, if there is one. -/
  package : (entries.filterMap Entry.statement?).filterMap Statement.package? = package.toList
  /-- The imports come in their order. -/
  imports : (entries.filterMap Entry.statement?).filterMap Statement.import? = imports

lemma map_numbered (line : Nat) (entries : List Entry) :
    (numbered line entries).map (fun p => p.2.1) = entries.filterMap Entry.statement? := by
  induction entries generalizing line with
  | nil => rfl
  | cons entry entries ih =>
    cases entry with
    | statement s text =>
      rw [numbered, List.map_cons, ih]
      rfl
    | silent token =>
      rw [numbered, ih]
      rfl

lemma filterMap_numbered {α : Type} (f : Statement → Option α) (line : Nat)
    (entries : List Entry) :
    ((numbered line entries).filterMap fun p => f p.2.1) =
      (entries.filterMap Entry.statement?).filterMap f := by
  rw [← map_numbered line, List.filterMap_map]
  rfl

/-! ### Tokens -/

/-- No comment and no literal opens at a character of a statement. -/
lemma InStatement.not_opens {c : Char} (hc : InStatement c) (rest : List Char) :
    ¬ Dialect.kotlin.Opens (c :: rest) := by
  intro hopens
  have hstart : c = '/' ∨ c = '"' ∨ c = '\'' := by
    cases hopens with
    | lineComment h => exact .inl (List.cons_prefix_cons.1 h).1.symm
    | blockComment hd h => exact .inl (List.cons_prefix_cons.1 h).1.symm
    | @literal quote hashes hd h =>
      -- there are no hash signs before a literal
      obtain rfl : hashes = 0 := by
        by_contra hpos
        have hfences := (hd.fenced (Nat.pos_of_ne_zero hpos)).1
        cases hfences
      obtain ⟨a, more, hopening⟩ :=
        List.exists_cons_of_ne_nil (Dialect.kotlin.literal quote 0).opening_ne_nil
      rw [hopening] at h
      obtain rfl : a = c := (List.cons_prefix_cons.1 h).1
      have hmem : a ∈ (Dialect.kotlin.literal quote 0).opening := hopening ▸ List.mem_cons_self
      exact .inr (Quote.mem_delimiter hmem)
  rcases hstart with rfl | rfl | rfl
  · exact absurd hc (by decide)
  · exact absurd hc (by decide)
  · exact absurd hc (by decide)

lemma unopened_of_forall {text : List Char} (h : ∀ c ∈ text, InStatement c) (after : List Char) :
    Unopened .kotlin after text := by
  induction text with
  | nil => trivial
  | cons c text ih =>
    obtain ⟨hc, htext⟩ := List.forall_mem_cons.1 h
    exact ⟨hc.not_opens _, ih htext⟩

/-- The parts of a rendering are read as the tokens that they are. -/
lemma wellFormed_of_laid {busy : Bool} (h : Laid busy entries) :
    Tokens.WellFormed .kotlin (entries.map Entry.token) := by
  induction entries generalizing busy with
  | nil => trivial
  | cons entry entries ih =>
    cases entry with
    | statement s text =>
      obtain ⟨-, hspelled, hrest⟩ := h
      exact ⟨unopened_of_forall hspelled.inStatement _, ih hrest⟩
    | silent token =>
      obtain ⟨-, hwell, hrest⟩ := h
      exact ⟨hwell, ih hrest⟩

/-- No part of a rendering is a literal. -/
lemma closedAtEnd_of_laid {busy : Bool} (h : Laid busy entries) :
    ∀ token ∈ entries.map Entry.token, token.ClosedAtEnd .kotlin := by
  induction entries generalizing busy with
  | nil => exact List.forall_mem_nil _
  | cons entry entries ih =>
    rw [List.map_cons, List.forall_mem_cons]
    cases entry with
    | statement s text => exact ⟨trivial, ih h.2.2⟩
    | silent token => exact ⟨h.1.closedAtEnd, ih h.2.2⟩

/-- Hiding a text keeps its line feeds. -/
lemma count_hide (text : List Char) : (hide text).count '\n' = text.count '\n' := by
  induction text with
  | nil => rfl
  | cons c rest ih =>
    have hc : (hideAt c rest == '\n') = (c == '\n') := by
      unfold hideAt
      split
      · rfl
      · rename_i hend
        have hne : c ≠ '\n' := by
          rintro rfl
          exact hend (atLineEnd_newline rest)
        rw [beq_eq_false_iff_ne.2 hne]
        decide
    rw [hide, List.count_cons, List.count_cons, ih, hc]

lemma count_masked {token : Token} {after : List Char} (h : token.Silent)
    (hwell : token.WellFormed .kotlin after) :
    (token.masked .kotlin).count '\n' = (token.source .kotlin).count '\n' := by
  cases token with
  | code text => rfl
  | lineComment text =>
    have hsource : '\n' ∉ (Token.lineComment text).source .kotlin := by
      have htext : '\n' ∉ text := IsFirstLine.not_mem hwell
      simp [Token.source, Dialect.kotlin, htext]
    have hmasked : '\n' ∉ (Token.lineComment text).masked .kotlin := by
      intro hmem
      exact absurd (List.mem_replicate.1 hmem).2 (by decide)
    rw [List.count_eq_zero.2 hsource, List.count_eq_zero.2 hmasked]
  | blockComment body => exact count_hide _
  | literal quote hashes body => exact absurd h id

lemma contains_masked {token : Token} {after : List Char} (h : token.Silent)
    (hwell : token.WellFormed .kotlin after) :
    (token.masked .kotlin).contains '\n' = (token.source .kotlin).contains '\n' := by
  rw [Bool.eq_iff_iff, List.contains_iff_mem, List.contains_iff_mem, ← List.count_pos_iff,
    count_masked h hwell, List.count_pos_iff]

/-! ### Lines -/

/-- What stands on a masked line: a statement between blanks, or blanks only. -/
inductive Holds : Option (Statement × List Char) → List Char → Prop where
  /-- Blanks only. -/
  | blank {line : List Char} (h : Blank line) : Holds none line
  /-- A statement. -/
  | statement {s : Statement} {text pre post : List Char} (h : s.Spelled text) (hpre : Blank pre)
      (hpost : Blank post) : Holds (some (s, text)) (pre ++ (text ++ post))

namespace Holds

variable {on : Option (Statement × List Char)} {line : List Char}

lemma append (h : Holds on line) {more : List Char} (hmore : Blank more) :
    Holds on (line ++ more) := by
  cases h with
  | blank h => exact .blank (List.forall_mem_append.2 ⟨h, hmore⟩)
  | statement h hpre hpost =>
    rw [List.append_assoc, List.append_assoc]
    exact .statement h hpre (List.forall_mem_append.2 ⟨hpost, hmore⟩)

lemma eq_none (h : Holds on line) (hline : line = []) : on = none := by
  cases h with
  | blank => rfl
  | statement h => simp [h.ne_nil] at hline

/-- A carriage return at the end of a line belongs to the blanks. -/
lemma dropReturn (h : Holds on line) : Holds on (dropReturn line) := by
  by_cases hlast : line.getLast? = some '\r'
  swap
  · rwa [dropReturn_eq_self hlast]
  cases h with
  | blank h => exact .blank fun c hc => h c (dropReturn_subset _ hc)
  | @statement s text pre post h hpre hpost =>
    rcases List.eq_nil_or_concat post with rfl | ⟨post, c, rfl⟩
    · -- the last character of a statement is no blank
      rw [List.append_nil, List.getLast?_append_of_ne_nil _ h.ne_nil] at hlast
      exact absurd (h.isBlank_getLast? _ hlast) (by decide)
    · rw [List.concat_eq_append, ← List.append_assoc, ← List.append_assoc] at hlast ⊢
      obtain rfl : c = '\r' := by simpa using hlast
      rw [dropReturn_concat, List.append_assoc]
      exact .statement h hpre fun c hc => hpost c (by simp [hc])

end Holds

/-- A way to look for something on lines finds `found` where a statement stands, and nothing on
blank lines. -/
def Finds {β : Type} (find : Nat → List Char → Option β)
    (found : Nat → Statement → List Char → Option β) : Prop :=
  ∀ ⦃on line⦄, Holds on line → ∀ number,
    find number line = on.bind fun entry => found number entry.1 entry.2

section Finds

variable {β : Type} {find : Nat → List Char → Option β}
  {found : Nat → Statement → List Char → Option β}

/-- If a line that is not closed yet is followed by blanks with line feeds, it is closed, and blank
lines follow. -/
lemma Finds.closed (h : Finds find found) {on : Option (Statement × List Char)}
    {line blanks : List Char} (hline : Holds on line) (hfree : '\n' ∉ line) (hblanks : Blank blanks)
    (hmem : '\n' ∈ blanks) (number : Nat) :
    ((numberFrom number (closedLines (line ++ blanks))).filterMap fun p => find p.1 p.2) =
        (on.bind fun entry => found number entry.1 entry.2).toList ∧
      Blank (openLine (line ++ blanks)) := by
  obtain ⟨more, rest, rfl, hmore⟩ := List.eq_append_cons_of_mem hmem
  obtain ⟨hmoreBlank, hrestBlank⟩ := List.forall_mem_append.1 hblanks
  have hrest := Blank.lines fun c hc => hrestBlank c (List.mem_cons_of_mem _ hc)
  have hfirst : '\n' ∉ line ++ more := by simp [hfree, hmore]
  have hfound := h (hline.append hmoreBlank).dropReturn number
  have hnone : ((numberFrom (number + 1) (closedLines rest)).filterMap
      fun p => find p.1 p.2) = [] := by
    refine List.filterMap_eq_nil_iff.2 fun p hp => ?_
    exact h (.blank (hrest.1 _ (mem_of_mem_numberFrom hp))) p.1
  rw [← List.append_assoc, closedLines_append_newline hfirst, openLine_append_newline hfirst]
  refine ⟨?_, hrest.2⟩
  rw [numberFrom, List.filterMap_eq_flatMap_toList, List.flatMap_cons,
    ← List.filterMap_eq_flatMap_toList, hnone, List.append_nil, hfound]

/-- What is found on the lines of a rendering is what is found of its statements. -/
lemma Finds.lines (h : Finds find found) {on : Option (Statement × List Char)} {line : List Char}
    (hlaid : Laid on.isSome entries) (hline : Holds on line) (hfree : '\n' ∉ line) (number : Nat) :
    ((numberFrom number (lines (line ++ Tokens.masked .kotlin (entries.map Entry.token)))).filterMap
        fun p => find p.1 p.2) =
      (on.bind fun entry => found number entry.1 entry.2).toList ++
        (numbered number entries).filterMap fun p => found p.1 p.2.1 p.2.2 := by
  -- `line` is what has been read of the line that is still open, and `on` the statement on it
  induction entries generalizing on line number with
  | nil =>
    have hend : Tokens.masked .kotlin (([] : List Entry).map Entry.token) = [] := rfl
    rw [hend, List.append_nil, numbered, List.filterMap_nil, List.append_nil]
    by_cases hne : line = []
    · obtain rfl := hline.eq_none hne
      rw [hne]
      rfl
    · rw [lines_of_not_mem hne hfree, ← h hline number, numberFrom, numberFrom,
        List.filterMap_eq_flatMap_toList, List.flatMap_singleton]
  | cons entry entries ih =>
    cases entry with
    | statement s text =>
      obtain ⟨hbusy, hspelled, hrest⟩ := hlaid
      have hrest : Laid (some (s, text)).isSome entries := hrest
      obtain rfl : on = none := by simpa using hbusy
      obtain ⟨hblank⟩ := hline
      have hheld : Holds (some (s, text)) (line ++ text) := by
        have hheld := Holds.statement hspelled hblank (List.forall_mem_nil _)
        rwa [List.append_nil] at hheld
      have hmasked : Tokens.masked .kotlin ((Entry.statement s text :: entries).map Entry.token) =
          text ++ Tokens.masked .kotlin (entries.map Entry.token) := rfl
      have hfree' : '\n' ∉ line ++ text := by simp [hfree, hspelled.newline_notMem]
      rw [hmasked, ← List.append_assoc, ih hrest hheld hfree', numbered,
        List.filterMap_eq_flatMap_toList, List.filterMap_eq_flatMap_toList, List.flatMap_cons]
      rfl
    | silent token =>
      obtain ⟨hsilent, hwell, hrest⟩ := hlaid
      have hblank : Blank (token.masked .kotlin) := hsilent.blank_masked
      have hmasked : Tokens.masked .kotlin ((Entry.silent token :: entries).map Entry.token) =
          token.masked .kotlin ++ Tokens.masked .kotlin (entries.map Entry.token) := rfl
      rw [hmasked, ← List.append_assoc, numbered, ← count_masked hsilent hwell]
      rw [← contains_masked hsilent hwell] at hrest
      by_cases hmem : '\n' ∈ token.masked .kotlin
      · -- the line is closed, and the next statement stands on another one
        obtain ⟨hclosed, hopen⟩ := h.closed hline hfree hblank hmem number
        have hlength : (closedLines (line ++ token.masked .kotlin)).length =
            (token.masked .kotlin).count '\n' := by
          rw [length_closedLines, List.count_append, List.count_eq_zero.2 hfree, Nat.zero_add]
        have hrest : Laid (none : Option (Statement × List Char)).isSome entries := by
          rwa [List.contains_iff_mem.2 hmem, Bool.not_true, Bool.and_false] at hrest
        rw [lines_append, numberFrom_append, List.filterMap_append, hclosed, hlength,
          ih hrest (.blank hopen) (newline_notMem_openLine _)]
        rfl
      · have hfree' : '\n' ∉ line ++ token.masked .kotlin := by simp [hfree, hmem]
        have hcontains : (token.masked .kotlin).contains '\n' = false := by
          rwa [Bool.eq_false_iff, ne_eq, List.contains_iff_mem]
        rw [hcontains, Bool.not_false, Bool.and_true] at hrest
        rw [ih hrest (hline.append hblank) hfree', List.count_eq_zero.2 hmem, Nat.add_zero]

end Finds

lemma finds_importOf? : Finds importOf? Statement.importAt? := by
  rintro on line hline number
  cases hline with
  | blank h => exact importOf?_blank h number
  | statement h hpre hpost => exact h.importOf? hpre hpost number

lemma finds_packageOf? :
    Finds (fun _ => packageOf?) fun _ s _ => s.package?.map DottedName.string := by
  rintro on line hline -
  cases hline with
  | blank h => exact packageOf?_blank h
  | statement h hpre hpost => exact h.packageOf? hpre hpost

lemma finds_exportOf? : Finds (fun _ => exportOf?) fun _ _ _ => none := by
  rintro on line hline -
  cases hline with
  | blank h => exact exportOf?_blank h
  | statement h hpre hpost => exact h.exportOf? hpre

/-! ### The outline -/

/-- The imports of a rendering. -/
def importsOf (entries : List Entry) : List Import :=
  (numbered 1 entries).filterMap fun p => p.2.1.importAt? p.1 p.2.2

/-- What is found on the masked lines of a rendering. -/
lemma Finds.mask {β : Type} {find : Nat → List Char → Option β}
    {found : Nat → Statement → List Char → Option β} (h : Finds find found)
    (hlaid : Laid false entries) :
    ((numberFrom 1 (mask .kotlin (rendered entries))).filterMap fun p => find p.1 p.2) =
      (numbered 1 entries).filterMap fun p => found p.1 p.2.1 p.2.2 := by
  have hregular := Dialect.regular_of_mem_known (by decide : Dialect.kotlin ∈ Dialect.known)
  rw [Masking.mask, rendered, (maskLines_tokens hregular (wellFormed_of_laid hlaid)
    (closedAtEnd_of_laid hlaid)).1]
  have hstart : Laid (none : Option (Statement × List Char)).isSome entries := hlaid
  exact h.lines hstart (.blank (List.forall_mem_nil _)) List.not_mem_nil 1

lemma findSome?_packageOf? {package : Option DottedName} {imports : List (DottedName × Form)}
    (h : Renders package imports entries) :
    (mask .kotlin (rendered entries)).findSome? packageOf? = package.map DottedName.string := by
  have hfound := finds_packageOf?.mask h.laid
  rw [filterMap_numbered fun s => s.package?.map DottedName.string, ← List.map_filterMap,
    h.package] at hfound
  rw [← List.head?_filterMap, ← map_snd_numberFrom 1 (mask .kotlin (rendered entries)),
    List.filterMap_map]
  refine (congrArg List.head? hfound).trans ?_
  cases package <;> rfl

lemma exportsOf_rendered (h : Laid false entries) :
    exportsOf (mask .kotlin (rendered entries)) = [] := by
  have hnone : ∀ line ∈ mask .kotlin (rendered entries), exportOf? line = none := by
    have hfound := finds_exportOf?.mask h
    rw [List.filterMap_eq_nil_iff.2 fun _ _ => rfl, List.filterMap_eq_nil_iff] at hfound
    intro line hline
    rw [← map_snd_numberFrom 1 (mask .kotlin (rendered entries))] at hline
    obtain ⟨p, hp, rfl⟩ := List.mem_map.1 hline
    exact hfound p hp
  rw [exportsOf, List.filterMap_eq_nil_iff]
  rintro ⟨number, line, depth⟩ hp
  have hline := (List.of_mem_zip (mem_of_mem_numberFrom hp)).1
  simp [hnone line hline]

/-- However a header is rendered, its outline holds the package, the imports in their order with the
lines that they stand on, and the full name of the file in the package; nothing is exported. -/
theorem outline_header {package : Option DottedName} {imports : List (DottedName × Form)}
    (h : Renders package imports entries) (path : String) :
    outline path (rendered entries) =
      { package := package.map DottedName.string
        qualifiedName :=
          some (Name.join ((package.map DottedName.string).getD "") (Path.stem path))
        exportNamespace := package.map DottedName.string
        imports := importsOf entries } ∧
    (importsOf entries).map Import.target = imports.map fun entry => entry.2.target entry.1 := by
  constructor
  · have himports := finds_importOf?.mask h.laid
    simp only [outline, findSome?_packageOf? h, exportsOf_rendered h.laid]
    rw [importsOf, ← himports]
    rfl
  · have htarget : ∀ (line : Nat) (s : Statement) (text : List Char),
        (s.importAt? line text).map Import.target =
          s.import?.map fun entry => entry.2.target entry.1 := by
      intro line s text
      rw [Statement.importAt?, Option.map_map]
      rfl
    rw [importsOf, List.map_filterMap]
    simp only [htarget]
    rw [filterMap_numbered fun s => s.import?.map fun entry => entry.2.target entry.1,
      ← List.map_filterMap, h.imports]

/-- The name `app.core`. -/
def coreName : DottedName where
  words := [⟨"app".toList, by decide, List.all_eq_true.1 (by decide)⟩,
    ⟨"core".toList, by decide, List.all_eq_true.1 (by decide)⟩]
  ne_nil := by simp

/-- The name `db.Row`. -/
def rowName : DottedName where
  words := [⟨"db".toList, by decide, List.all_eq_true.1 (by decide)⟩,
    ⟨"Row".toList, by decide, List.all_eq_true.1 (by decide)⟩]
  ne_nil := by simp

/-- The name `as`. -/
def asName : Word where
  text := "as".toList
  ne_nil := by decide
  isWord_of_mem := List.all_eq_true.1 (by decide)

/-- A package and three imports, one of them with the alias `as`, between comments: one comment
starts behind the package and ends before an import, and one looks like an import. -/
def coreHeader : List Entry :=
  [.silent (.code " \t".toList),
    .statement (.package coreName) ("package".toList ++ ("  ".toList ++ (coreName.text ++
      (" ".toList ++ [';'])))),
    .silent (.blockComment (.char '\n' (.nested .done .done))),
    .statement (.imports rowName (.aliased asName)) ("import".toList ++ ("\t".toList ++
      (rowName.text ++ ((" ".toList ++ ("as".toList ++ ("  ".toList ++ asName.text))) ++ [])))),
    .silent (.lineComment " import x.y".toList), .silent (.code "\r\n\n".toList),
    .statement (.imports coreName .all) ("import".toList ++ (" ".toList ++ (coreName.text ++
      (dotStar true ++ ([] ++ [';']))))),
    .silent (.code "\n".toList),
    .statement (.imports rowName .plain) ("import".toList ++ (" ".toList ++ (rowName.text ++
      ([] ++ []))))]

theorem outline_header_coreHeader :
    Renders (some coreName)
        [(rowName, .aliased asName), (coreName, .all), (rowName, .plain)] coreHeader ∧
      String.ofList (rendered coreHeader) =
        " \tpackage  app.core ;/*\n/**/*/import\tdb.Row as  as// import x.y\r\n\n" ++
          "import app.core.*;\nimport db.Row" ∧
      outline "src/app/Main.kt" (rendered coreHeader) =
        { package := some "app.core"
          qualifiedName := some "app.core.Main"
          exportNamespace := some "app.core"
          imports := [⟨2, "import\tdb.Row as  as", .name "db.Row"⟩,
            ⟨4, "import app.core.*;", .wildcard "app.core"⟩,
            ⟨5, "import db.Row", .name "db.Row"⟩] } := by
  have hgap : ∀ {gap : List Char}, (Blank gap ∧ '\n' ∉ gap) → Gap gap := fun h => ⟨h.1, h.2⟩
  have hlaid : Laid false coreHeader :=
    ⟨by decide, by decide +kernel, rfl,
      .package coreName (hgap (by decide)) (by decide) (.semicolon (hgap (by decide))),
      trivial, by decide +kernel, rfl,
      .imports rowName (hgap (by decide)) (by decide)
        (.aliased asName (hgap (by decide)) (by decide) (hgap (by decide)) (by decide)) .bare,
      trivial, by decide +kernel, by decide, by decide +kernel, rfl,
      .imports coreName (hgap (by decide)) (by decide) .all (.semicolon (hgap (by decide))),
      by decide, by decide +kernel, rfl,
      .imports rowName (hgap (by decide)) (by decide) .plain .bare, trivial⟩
  have hrenders : Renders (some coreName)
      [(rowName, .aliased asName), (coreName, .all), (rowName, .plain)] coreHeader :=
    ⟨hlaid, rfl, rfl⟩
  refine ⟨hrenders, by decide +kernel, ?_⟩
  refine (outline_header hrenders "src/app/Main.kt").1.trans ?_
  decide +kernel

end Strata.Language.Kotlin

import Strata.Proofs.Language.BlankLines
import Strata.Proofs.Text.Words

/-!
# The lines of a Kotlin header

A header names a package and imports, each on a line of its own.  The pattern of an import line can
be matched in many ways: the name is taken reluctantly, and a final `.*`, an alias and a semicolon
may all be left out.  They come to the same, because a name ends where the first character stands
that is neither a word character nor a dot, and what may follow it starts with no such character
(`ReadsImport.unique`).  So a line is found to import what it can be read as.

No line is read in two ways: its first word decides whether it names a package or an import, and
neither word starts a declaration.
-/

namespace Strata.Language.Kotlin

open Strata.Text Strata.Pattern

/-! ### Names -/

/-- A part of a dotted name: one or more word characters. -/
structure Word where
  /-- The characters of the word. -/
  text : List Char
  ne_nil : text ≠ []
  isWord_of_mem : ∀ c ∈ text, isWord c = true

/-- A name: one or more words with a dot between each two. -/
structure DottedName where
  /-- The words of the name. -/
  words : List Word
  ne_nil : words ≠ []

/-- How a name is written. -/
def DottedName.text (name : DottedName) : List Char :=
  ['.'].intercalate (name.words.map Word.text)

/-- Whether a character can stand in a name. -/
def inName (c : Char) : Bool := (CharClass.word ['.']).contains c

lemma inName_iff {c : Char} : inName c = true ↔ isWord c = true ∨ c = '.' := by
  simp [inName, CharClass.contains]

lemma inName_eq_false_of_isBlank {c : Char} (hc : isBlank c = true) : inName c = false := by
  rw [Bool.eq_false_iff, ne_eq, inName_iff, isWord_eq_false_of_isBlank hc]
  rintro (hword | rfl)
  · cases hword
  · cases hc

lemma isBlank_eq_false_of_inName {c : Char} (hc : inName c = true) : isBlank c = false := by
  rw [Bool.eq_false_iff]
  intro hblank
  rw [inName_eq_false_of_isBlank hblank] at hc
  cases hc

lemma DottedName.text_ne_nil (name : DottedName) : name.text ≠ [] := by
  obtain ⟨words, hne⟩ := name
  obtain ⟨word, words, rfl⟩ := List.exists_cons_of_ne_nil hne
  cases words with
  | nil => simpa [text] using word.ne_nil
  | cons next words => simp [text, List.intercalate_cons_cons]

lemma DottedName.inName_of_mem (name : DottedName) : ∀ c ∈ name.text, inName c = true := by
  intro c hc
  rw [inName_iff]
  rcases eq_or_mem_of_mem_intercalate hc with rfl | ⟨text, htext, hmem⟩
  · exact .inr rfl
  · obtain ⟨word, -, rfl⟩ := List.mem_map.1 htext
    exact .inl (word.isWord_of_mem c hmem)

/-! ### Words -/

/-- The words that a declaration can start with, behind its annotations. -/
def declarationWords : List String :=
  modifiers ++ ["class", "interface", "object", "fun", "val", "var", "typealias"]

/-- The words that the lines of a header start with. -/
def headerWords : List String := ["package", "import"]

lemma solid_of_mem_words {word : String} (h : word ∈ declarationWords ++ headerWords) :
    Solid word.toList ∧ word.toList ≠ [] := by
  have hall : (declarationWords ++ headerWords).all
      (fun word => word.toList.all (fun c => !isBlank c) && !word.toList.isEmpty) = true := by
    decide +kernel
  simpa [Solid] using List.all_eq_true.1 hall word h

/-! ### Import lines -/

/-- The alias of an import. -/
def importAlias : Pattern :=
  .chain [.blanks1, .text "as", .blanks1, .some1 (.one (.word []))]

/-- The end of an import line, behind the name: an alias and a semicolon, if there are any. -/
def importEnd : Pattern :=
  .chain [.optional importAlias, .blanks, .optional (.one (.lit ';')), .blanks, .atEnd]

lemma importLine_eq : importLine = keyworded "import"
    (.seq (.capture 1 (.seq (.one (.word ['.'])) (.star true (.one (.word ['.'])))))
      (.seq (.optional (.capture 2 (.text ".*"))) importEnd)) := rfl

/-- The alias of an import as it is written. -/
def IsAlias (text : List Char) : Prop :=
  ∃ gap gap' word, text = gap ++ ("as".toList ++ (gap' ++ word)) ∧ (gap ≠ [] ∧ Blank gap) ∧
    (gap' ≠ [] ∧ Blank gap') ∧ word ≠ [] ∧ ∀ c ∈ word, isWord c = true

/-- What may follow the name on an import line. -/
def EndsImport (tail : List Char) : Prop :=
  ∃ renamed gap semicolon gap', tail = renamed ++ (gap ++ (semicolon ++ gap')) ∧
    (IsAlias renamed ∨ renamed = []) ∧ Blank gap ∧ (semicolon = [';'] ∨ semicolon = []) ∧ Blank gap'

lemma takes_importAlias_iff {before : Option Char} {part rest : List Char} :
    importAlias.Takes before part rest ↔ IsAlias part := by
  have hword : ∀ c, (CharClass.word []).contains c = isWord c := by simp [CharClass.contains]
  simp only [importAlias, chain, takes_seq_iff, blanks1, takes_some1_one_iff, takes_text_iff, hword]
  constructor
  · rintro ⟨gap, _, rfl, hgap, _, _, rfl, rfl, gap', word, rfl, hgap', hword⟩
    exact ⟨gap, gap', word, rfl, hgap, hgap', hword⟩
  · rintro ⟨gap, gap', word, rfl, hgap, hgap', hword⟩
    exact ⟨gap, _, rfl, hgap, _, _, rfl, rfl, gap', word, rfl, hgap', hword⟩

lemma takes_importEnd_iff {before : Option Char} {part rest : List Char} :
    importEnd.Takes before part rest ↔ EndsImport part ∧ rest = [] := by
  have hsemicolon : ∀ {before : Option Char} {part rest : List Char},
      (Pattern.one (.lit ';')).Takes before part rest ↔ part = [';'] := by
    simp [takes_one_iff, CharClass.contains]
  simp only [importEnd, chain, takes_seq_iff, takes_optional_iff, takes_importAlias_iff, blanks,
    many, takes_star_one_iff, hsemicolon, takes_atEnd_iff]
  constructor
  · rintro ⟨renamed, _, rfl, halias, gap, _, rfl, hgap, semicolon, _, rfl, hsemi, gap', _, rfl,
      hgap', rfl, rfl⟩
    rw [List.append_nil gap']
    exact ⟨⟨renamed, gap, semicolon, gap', rfl, halias, hgap, hsemi, hgap'⟩, rfl⟩
  · rintro ⟨⟨renamed, gap, semicolon, gap', rfl, halias, hgap, hsemi, hgap'⟩, rfl⟩
    exact ⟨renamed, _, rfl, halias, gap, _, rfl, hgap, semicolon, _, rfl, hsemi, gap', [],
      (List.append_nil gap').symm, hgap', rfl, rfl⟩

/-- What follows the name starts with a blank or with the semicolon. -/
lemma EndsImport.head? {tail : List Char} (h : EndsImport tail) :
    ∀ c ∈ tail.head?, isBlank c = true ∨ c = ';' := by
  have hblank : ∀ {gap rest : List Char}, Blank gap →
      (∀ c ∈ rest.head?, isBlank c = true ∨ c = ';') →
      ∀ c ∈ (gap ++ rest).head?, isBlank c = true ∨ c = ';' := by
    intro gap rest hgap hrest
    cases gap with
    | nil => exact hrest
    | cons b gap =>
      rintro c ⟨⟩
      exact .inl (hgap b List.mem_cons_self)
  obtain ⟨renamed, gap, semicolon, gap', rfl, halias, hgap, hsemi, hgap'⟩ := h
  have hend : ∀ c ∈ (semicolon ++ gap').head?, isBlank c = true ∨ c = ';' := by
    rcases hsemi with rfl | rfl
    · rintro c ⟨⟩
      exact .inr rfl
    · rw [List.nil_append, ← List.append_nil gap']
      exact hblank hgap' (by simp)
  rcases halias with ⟨gap₁, gap₂, word, rfl, ⟨hne, hgap₁⟩, -⟩ | rfl
  · obtain ⟨b, gap₁, rfl⟩ := List.exists_cons_of_ne_nil hne
    rintro c ⟨⟩
    exact .inl (hgap₁ b List.mem_cons_self)
  · rw [List.nil_append]
    exact hblank hgap hend

lemma EndsImport.inName_head? {tail : List Char} (h : EndsImport tail) :
    ∀ c ∈ tail.head?, inName c = false := by
  intro c hc
  rcases h.head? c hc with hblank | rfl
  · exact inName_eq_false_of_isBlank hblank
  · decide

/-- How it is written that everything in a package is imported. -/
def dotStar (all : Bool) : List Char := if all then ".*".toList else []

/-- A name and what follows it are cut where the first character stands that can be in no name. -/
lemma name_inj {name name' tail tail' : List Char} {all all' : Bool}
    (hname : ∀ c ∈ name, inName c = true) (hname' : ∀ c ∈ name', inName c = true)
    (htail : EndsImport tail) (htail' : EndsImport tail')
    (h : name ++ (dotStar all ++ tail) = name' ++ (dotStar all' ++ tail')) :
    name = name' ∧ all = all' := by
  -- a dot before the star can be in a name, and the star cannot
  have hdot : ∀ {name : List Char}, (∀ c ∈ name, inName c = true) →
      ∀ c ∈ name ++ ['.'], inName c = true := fun hname c hc =>
    (List.mem_append.1 hc).elim (hname c) fun hc => List.mem_singleton.1 hc ▸ by decide
  have hstar : ∀ {tail : List Char}, ∀ c ∈ ('*' :: tail).head?, inName c = false := by
    rintro tail c ⟨⟩
    decide
  have hother : ∀ {name name' tail tail' : List Char}, (∀ c ∈ name, inName c = true) →
      (∀ c ∈ name', inName c = true) → EndsImport tail →
      name ++ tail ≠ (name' ++ ['.']) ++ '*' :: tail' := by
    intro name name' tail tail' hname hname' htail heq
    obtain ⟨-, rfl⟩ := append_inj_of_forall hname (hdot hname') htail.inName_head? hstar heq
    rcases htail.head? '*' rfl with hblank | heq
    · exact absurd hblank (by decide)
    · exact absurd heq (by decide)
  cases all <;> cases all'
  case false.false =>
    have hcut := append_inj_of_forall hname hname' htail.inName_head? htail'.inName_head? h
    exact ⟨hcut.1, rfl⟩
  case false.true =>
    have heq : name ++ tail = (name' ++ ['.']) ++ '*' :: tail' := by simpa [dotStar] using h
    exact absurd heq (hother hname hname' htail)
  case true.false =>
    have heq : name' ++ tail' = (name ++ ['.']) ++ '*' :: tail := by simpa [dotStar] using h.symm
    exact absurd heq (hother hname' hname htail')
  case true.true =>
    have hstem : (name ++ ['.']) ++ '*' :: tail = (name' ++ ['.']) ++ '*' :: tail' := by
      simpa [dotStar] using h
    exact ⟨List.append_cancel_right
      (append_inj_of_forall (hdot hname) (hdot hname') hstar hstar hstem).1, rfl⟩

/-- A line that can be read as the import of a name, or of everything in a package of that name. -/
inductive ReadsImport (name : List Char) (all : Bool) : List Char → Prop where
  /-- The word `import` between blanks, the name, and what may follow it. -/
  | intro {lead gap tail : List Char} (hlead : Blank lead) (hgap : gap ≠ [] ∧ Blank gap)
      (hname : name ≠ [] ∧ ∀ c ∈ name, inName c = true) (htail : EndsImport tail) :
      ReadsImport name all (lead ++ ("import".toList ++ (gap ++ (name ++ (dotStar all ++ tail)))))

namespace ReadsImport

/-- The pattern matches a line only as it can be read. -/
lemma of_mem_runs {line : List Char} {t : Spot} (h : t ∈ runs importLine (Spot.start line)) :
    ReadsImport (t.captured 1) (t.captured? 2).isSome line := by
  rw [importLine_eq, mem_runs_keyworded_iff] at h
  obtain ⟨lead, gap, _, rfl, hlead, hgap, h⟩ := h
  obtain ⟨name, rest, rfl, htaken, h⟩ := (mem_runs_seq_capture_iff rfl).1 h
  have hname := takes_one_star_iff.1 htaken
  let named := (Spot.behindKeyword lead "import" gap (name ++ rest)).keep 1 name rest
  have hnamed : named.captured? 1 = some name := Spot.captured?_keep_self rfl
  rcases mem_runs_seq_optional_iff.1 h with h | h
  · obtain ⟨_, rest', hrest, hstar, h⟩ := (mem_runs_seq_capture_iff (captureFree_text _)).1 h
    obtain rfl := takes_text_iff.1 hstar
    obtain ⟨tail, _, hrest', htail, rfl⟩ := (mem_runs_iff rfl _ _).1 h
    obtain ⟨hends, rfl⟩ := takes_importEnd_iff.1 htail
    obtain rfl : rest' = tail := hrest'.trans (List.append_nil tail)
    obtain rfl : rest = dotStar true ++ rest' := hrest
    have hname₁ : ((named.keep 2 (dotStar true) rest').behind rest' []).captured 1 = name := by
      have hkept := Spot.captured?_keep_of_ne (s := named) (by decide : 2 ≠ 1) (dotStar true) rest'
      exact congrArg (Option.getD · []) (hkept.trans hnamed)
    have hname₂ : ((named.keep 2 (dotStar true) rest').behind rest' []).captured? 2 =
        some (dotStar true) := Spot.captured?_keep_self rfl
    exact hname₁.symm ▸ hname₂.symm ▸ .intro hlead hgap hname hends
  · obtain ⟨tail, _, hrest, htail, rfl⟩ := (mem_runs_iff rfl _ _).1 h
    obtain ⟨hends, rfl⟩ := takes_importEnd_iff.1 htail
    obtain rfl : rest = tail := hrest.trans (List.append_nil tail)
    have hname₁ : (named.behind rest []).captured 1 = name := congrArg (Option.getD · []) hnamed
    have hname₂ : (named.behind rest []).captured? 2 = none := rfl
    rw [hname₁, hname₂]
    exact .intro hlead hgap hname hends

/-- A line that can be read is matched. -/
lemma exists_mem_runs {name line : List Char} {all : Bool} (h : ReadsImport name all line) :
    ∃ t, t ∈ runs importLine (Spot.start line) := by
  obtain @⟨lead, gap, tail, hlead, hgap, hname, htail⟩ := h
  have hend : ∀ s : Spot, s.rest = tail → s.behind tail [] ∈ runs importEnd s := fun s hs =>
    (mem_runs_iff rfl _ _).2 ⟨tail, [], by rw [hs, List.append_nil],
      takes_importEnd_iff.2 ⟨htail, rfl⟩, rfl⟩
  simp only [importLine_eq, mem_runs_keyworded_iff]
  cases all with
  | false =>
    exact ⟨_, lead, gap, _, rfl, hlead, hgap, (mem_runs_seq_capture_iff rfl).2 ⟨name, _, rfl,
      takes_one_star_iff.2 hname, mem_runs_seq_optional_iff.2 (.inr (hend _ rfl))⟩⟩
  | true =>
    exact ⟨_, lead, gap, _, rfl, hlead, hgap, (mem_runs_seq_capture_iff rfl).2 ⟨name, _, rfl,
      takes_one_star_iff.2 hname, mem_runs_seq_optional_iff.2 (.inl
        ((mem_runs_seq_capture_iff (captureFree_text _)).2
          ⟨_, tail, rfl, takes_text_iff.2 rfl, hend _ rfl⟩))⟩⟩

/-- A line can be read as the import of one name only. -/
lemma unique {name name' line : List Char} {all all' : Bool} (h : ReadsImport name all line)
    (h' : ReadsImport name' all' line) : name = name' ∧ all = all' := by
  obtain @⟨lead, gap, tail, hlead, ⟨hne, hgap⟩, ⟨hnil, hname⟩, htail⟩ := h
  generalize hline : lead ++ ("import".toList ++ (gap ++ (name ++ (dotStar all ++ tail)))) = line
    at h'
  obtain @⟨lead', gap', tail', hlead', ⟨hne', hgap'⟩, ⟨hnil', hname'⟩, htail'⟩ := h'
  have himport : "import" ∈ headerWords := by decide
  obtain ⟨hsolid, hword⟩ := solid_of_mem_words (List.mem_append_right declarationWords himport)
  -- the blanks before and behind the word `import` are the same
  obtain ⟨-, -, hgaps⟩ := Solid.first_inj hlead hlead' hsolid hsolid hword hword
    (forall_head?_append hne hgap _) (forall_head?_append hne' hgap' _) hline
  obtain ⟨-, hnames⟩ := append_inj_of_forall hgap hgap'
    (forall_head?_append hnil (fun c hc => isBlank_eq_false_of_inName (hname c hc)) _)
    (forall_head?_append hnil' (fun c hc => isBlank_eq_false_of_inName (hname' c hc)) _) hgaps
  exact name_inj hname hname' htail htail' hnames

/-- The match that counts finds the name that is imported. -/
lemma exists_match? {name line : List Char} {all : Bool} (h : ReadsImport name all line) :
    ∃ found, importLine.match? line = some found ∧ found.captured 1 = name ∧
      (found.captured? 2).isSome = all := by
  obtain ⟨t, ht⟩ := h.exists_mem_runs
  obtain ⟨found, hfound⟩ := Option.isSome_iff_exists.1 (List.isSome_head?.2 (List.ne_nil_of_mem ht))
  exact ⟨found, hfound, (of_mem_runs (List.mem_of_head? hfound)).unique h⟩

end ReadsImport

/-! ### Package lines -/

/-- The name behind the word `package` is found, as far as it goes. -/
lemma packageOf?_keyword {lead gap name rest : List Char} (hlead : Blank lead)
    (hgap : gap ≠ [] ∧ Blank gap) (hname : name ≠ [] ∧ ∀ c ∈ name, inName c = true)
    (hrest : ∀ c ∈ rest.head?, inName c = false) :
    packageOf? (lead ++ ("package".toList ++ (gap ++ (name ++ rest)))) =
      some (String.ofList name) := by
  have hink : ∀ c ∈ (name ++ rest).head?, isBlank c = false :=
    forall_head?_append hname.1 (fun c hc => isBlank_eq_false_of_inName (hname.2 c hc)) rest
  have hpackage : "package" ∈ headerWords := by decide
  obtain ⟨hsolid, hword⟩ := solid_of_mem_words (List.mem_append_right declarationWords hpackage)
  let named := (Spot.behindKeyword lead "package" gap (name ++ rest)).keep 1 name rest
  have hfound : packageLine.match? (lead ++ ("package".toList ++ (gap ++ (name ++ rest)))) =
      some named :=
    match?_keyworded hlead hword (fun c hc => hsolid c (List.mem_of_mem_head? hc)) hgap hink
      (head?_runs_capture 1 name rest (head?_runs_some1 name rest rfl hname.1 hname.2 hrest))
  have hnamed : named.captured? 1 = some name := Spot.captured?_keep_self rfl
  rw [packageOf?, hfound, Option.map_some, Spot.captured, hnamed, Option.getD_some]

/-! ### Lines that start with another word -/

/-- A declaration starts with an annotation, or with one of its words and a blank. -/
lemma exists_of_match?_declaration {line : List Char} {found : Spot}
    (h : declaration.match? line = some found) :
    ∃ lead rest, line = lead ++ rest ∧ Blank lead ∧ (rest.head? = some '@' ∨
      ∃ word ∈ declarationWords, ∃ gap more, (gap ≠ [] ∧ Blank gap) ∧
        rest = word.toList ++ (gap ++ more)) := by
  have hmem := List.mem_of_head? h
  obtain ⟨_, _, rfl, hstart, hmem⟩ := (mem_runs_seq_iff rfl).1 hmem
  obtain ⟨rfl, -⟩ := takes_atStart_iff.1 hstart
  obtain ⟨lead, _, rfl, hlead, hmem⟩ := (mem_runs_seq_iff rfl).1 hmem
  obtain ⟨notes, _, rfl, hnotes, hmem⟩ := (mem_runs_seq_iff rfl).1 hmem
  obtain ⟨words, _, rfl, hwords, hmem⟩ := (mem_runs_seq_capture_iff rfl).1 hmem
  obtain ⟨keyword, _, rfl, hkeyword, hmem⟩ := (mem_runs_seq_iff rfl).1 hmem
  obtain ⟨gap, rest, rfl, hgap, -⟩ := (mem_runs_seq_iff rfl).1 hmem
  refine ⟨lead, _, rfl, takes_star_one_iff.1 hlead, ?_⟩
  rcases takes_star_iff.1 hnotes with rfl | ⟨note, _, rfl, -, hnote, -⟩
  · right
    rcases takes_star_iff.1 hwords with rfl | ⟨_, words, rfl, -, hmodifier, -⟩
    · -- without modifiers the keyword comes first
      obtain ⟨word, hword, rfl⟩ := (takes_texts_iff (by simp)).1 hkeyword
      exact ⟨word, List.mem_append_right _ hword, gap, rest, takes_some1_one_iff.1 hgap, rfl⟩
    · obtain ⟨_, gap', rfl, hmodifier, hgap'⟩ := takes_seq_iff.1 hmodifier
      obtain ⟨word, hword, rfl⟩ := (takes_texts_iff (by simp [modifiers])).1 hmodifier
      refine ⟨word, List.mem_append_left _ hword, gap', words ++ (keyword ++ (gap ++ rest)),
        takes_some1_one_iff.1 hgap', ?_⟩
      rw [List.nil_append, List.append_assoc, List.append_assoc]
  · obtain ⟨_, note, rfl, hsign, -⟩ := takes_seq_iff.1 hnote
    obtain ⟨c, hc, rfl⟩ := takes_one_iff.1 hsign
    obtain rfl : '@' = c := beq_iff_eq.1 hc
    exact .inl rfl

/-- A line of a header does not match a pattern that asks for the other word. -/
lemma match?_keyworded_eq_none {keyword other : String} {tail : Pattern}
    {lead gap rest : List Char} (hlead : Blank lead) (hkeyword : keyword ∈ headerWords)
    (hother : other ∈ headerWords) (hne : keyword ≠ other) (hgap : gap ≠ [] ∧ Blank gap) :
    (keyworded other tail).match? (lead ++ (keyword.toList ++ (gap ++ rest))) = none := by
  refine Option.eq_none_iff_forall_ne_some.2 fun found hfound => ?_
  obtain ⟨lead', gap', rest', hline, hlead', hgap', -⟩ :=
    mem_runs_keyworded_iff.1 (List.mem_of_head? hfound)
  have hsolid := solid_of_mem_words (List.mem_append_right _ hkeyword)
  have hsolid' := solid_of_mem_words (List.mem_append_right _ hother)
  obtain ⟨-, heq, -⟩ := Solid.first_inj hlead hlead' hsolid.1 hsolid'.1 hsolid.2 hsolid'.2
    (forall_head?_append hgap.1 hgap.2 rest) (forall_head?_append hgap'.1 hgap'.2 rest') hline
  exact hne (String.toList_inj.1 heq)

/-- The lines of a header declare nothing. -/
lemma exportOf?_keyword {lead gap rest : List Char} {keyword : String} (hlead : Blank lead)
    (hkeyword : keyword ∈ headerWords) (hgap : gap ≠ [] ∧ Blank gap) :
    exportOf? (lead ++ (keyword.toList ++ (gap ++ rest))) = none := by
  have hsolid := solid_of_mem_words (List.mem_append_right _ hkeyword)
  cases hfound : declaration.match? (lead ++ (keyword.toList ++ (gap ++ rest))) with
  | none => rw [exportOf?, hfound]
  | some found =>
    obtain ⟨lead', rest', hline, hlead', hfirst⟩ := exists_of_match?_declaration hfound
    rcases hfirst with hsign | ⟨word, hword, gap', more, hgap', rfl⟩
    · -- no word of a header starts with the sign of an annotation
      have hink : ∀ c ∈ rest'.head?, isBlank c = false := by
        intro c hc
        obtain rfl : '@' = c := Option.some.inj (hsign.symm.trans hc)
        decide
      obtain ⟨-, rfl⟩ := append_inj_of_forall hlead hlead'
        (forall_head?_append hsolid.2 hsolid.1 _) hink hline
      rw [List.head?_append_of_ne_nil _ hsolid.2] at hsign
      have hother : ∀ word ∈ headerWords, word.toList.head? ≠ some '@' := by decide
      exact absurd hsign (hother keyword hkeyword)
    · have hsolid' := solid_of_mem_words (List.mem_append_left _ hword)
      obtain ⟨-, heq, -⟩ := Solid.first_inj hlead hlead' hsolid.1 hsolid'.1 hsolid.2 hsolid'.2
        (forall_head?_append hgap.1 hgap.2 rest) (forall_head?_append hgap'.1 hgap'.2 more) hline
      obtain rfl := String.toList_inj.1 heq
      have hother : ∀ word ∈ headerWords, word ∉ declarationWords := by decide
      exact absurd hword (hother keyword hkeyword)

end Strata.Language.Kotlin

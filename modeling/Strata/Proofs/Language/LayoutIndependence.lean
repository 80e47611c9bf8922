import Strata.Proofs.Language.ImportLayout

/-!
# All layouts of a `from` import are read alike

What a layout leaves of a statement are its words, but for the commas: a comma may be a word of its
own or part of one.  This is the only trace of the layout, and cutting the list of names at its
commas removes it (`itemWords_viewBits`).  So all layouts of a statement import the same, on the
line where the statement begins (`imports_layout`).
-/

namespace Strata.Language.Python

open Strata.Text

/-! ### The words that a layout leaves -/

/-- The lexeme, unless it is a bracket. -/
def Lexeme.ink? : Lexeme → Option Lexeme
  | word text => some (.word text)
  | comma => some .comma
  | opening | closing => none

/-- A word or a comma, if the bit is one. -/
def Bit.ink? : Bit → Option Lexeme
  | lexeme l => l.ink?
  | filler _ => none

lemma Bit.view_of_ink?_eq_none {bit : Bit} (h : bit.ink? = none) : bit.view = [' '] := by
  rcases bit with (text | _ | _ | _) | f
  · cases h
  · cases h
  · rfl
  · rfl
  · rfl

lemma Bit.eq_of_ink? {bit : Bit} {l : Lexeme} (h : bit.ink? = some l) : bit = .lexeme l := by
  rcases bit with (text | _ | _ | _) | f <;> cases h <;> rfl

lemma map_unbracket_plain {text : List Char} (h : ∀ c ∈ text, isPlain c = true) :
    text.map unbracket = text :=
  map_unbracket_of_not_mem fun c hc => not_mem_joints_of_isPlain (h c hc)

lemma Lays.tail {bit : Bit} {rest : List Bit} {depth : Nat} (h : Lays depth (bit :: rest)) :
    ∃ depth', Lays depth' rest := by
  cases bit with
  | lexeme l => exact ⟨_, h.2⟩
  | filler f => exact ⟨_, h.2.2⟩

/-- Behind a word, a layout goes on with a space or a comma. -/
lemma head?_viewBits {text : List Char} {rest : List Bit} (h : clash (.word text) rest = false)
    {c : Char} (hc : c ∈ (viewBits rest).head?) : c = ' ' ∨ c = ',' := by
  rcases rest with _ | ⟨(text' | _ | _ | _) | f, rest⟩
  · cases hc
  · cases h
  · cases hc
    exact .inr rfl
  · cases hc
    exact .inl rfl
  · cases hc
    exact .inl rfl
  · cases hc
    exact .inl rfl

/-- A bit that leaves a space adds no word. -/
lemma words_viewBits_cons {bit : Bit} (h : bit.ink? = none) (rest : List Bit) :
    words (viewBits (bit :: rest)) = words (viewBits rest) := by
  rw [viewBits, List.flatMap_cons, Bit.view_of_ink?_eq_none h, List.singleton_append,
    words_cons (by decide)]
  rfl

lemma viewBits_word {text : List Char} (h : ∀ c ∈ text, isPlain c = true) (rest : List Bit) :
    viewBits (.lexeme (.word text) :: rest) = text ++ viewBits rest := by
  rw [viewBits, List.flatMap_cons, Bit.view, Lexeme.source, map_unbracket_plain h]
  rfl

/-- The words and commas of a layout. -/
def inks (bits : List Bit) : List Lexeme := bits.filterMap Bit.ink?

/-- The first word of a layout, if another word is the next. -/
lemma exists_words_eq_cons {bits : List Bit} (hplain : PlainWords bits) {depth : Nat}
    (hlays : Lays depth bits) {text next : List Char} {others : List Lexeme}
    (hinks : inks bits = .word text :: .word next :: others) :
    ∃ rest depth', words (viewBits bits) = text :: words (viewBits rest) ∧
      inks rest = .word next :: others ∧ PlainWords rest ∧ Lays depth' rest := by
  induction bits generalizing depth with
  | nil => cases hinks
  | cons bit rest ih =>
    obtain ⟨depth', hrest⟩ := hlays.tail
    cases hink : bit.ink? with
    | none =>
      rw [inks, List.filterMap_cons_none hink] at hinks
      rw [words_viewBits_cons hink]
      exact ih hplain.tail hrest hinks
    | some l =>
      rw [inks, List.filterMap_cons_some hink] at hinks
      obtain ⟨rfl, hothers⟩ := List.cons.inj hinks
      obtain rfl := Bit.eq_of_ink? hink
      obtain ⟨hne, htext⟩ := hplain _ List.mem_cons_self
      have hword := words_of_ink hne fun c hc => isBlank_eq_false_of_isPlain (htext c hc)
      refine ⟨rest, depth', ?_, hothers, hplain.tail, hrest⟩
      rw [viewBits_word htext]
      -- the next word does not follow at once, so a space stands behind this one
      cases rest with
      | nil => cases hothers
      | cons bit' rest =>
        cases hink' : bit'.ink? with
        | none =>
          rw [words_viewBits_cons hink', viewBits, List.flatMap_cons,
            Bit.view_of_ink?_eq_none hink', List.singleton_append, words_append_cons (by decide),
            hword]
          rfl
        | some l' =>
          rw [List.filterMap_cons_some hink'] at hothers
          obtain ⟨rfl, -⟩ := List.cons.inj hothers
          obtain rfl := Bit.eq_of_ink? hink'
          cases hlays.1

/-- A layout that starts with a word leaves a text that starts with the word, and no dotted name
goes on there. -/
lemma exists_collapse_eq {bits : List Bit} (hplain : PlainWords bits) {depth : Nat}
    (hlays : Lays depth bits) {text : List Char} {others : List Lexeme}
    (hinks : inks bits = .word text :: others) :
    ∃ tail, collapse (viewBits bits) = text ++ tail ∧ ∀ c ∈ tail.head?, isPlain c = false := by
  induction bits generalizing depth with
  | nil => cases hinks
  | cons bit rest ih =>
    obtain ⟨depth', hrest⟩ := hlays.tail
    cases hink : bit.ink? with
    | none =>
      rw [inks, List.filterMap_cons_none hink] at hinks
      rw [collapse, words_viewBits_cons hink]
      exact ih hplain.tail hrest hinks
    | some l =>
      rw [inks, List.filterMap_cons_some hink] at hinks
      obtain ⟨rfl, -⟩ := List.cons.inj hinks
      obtain rfl := Bit.eq_of_ink? hink
      obtain ⟨hne, htext⟩ := hplain _ List.mem_cons_self
      obtain ⟨tail, htail, hhead⟩ := exists_collapse_append hne
        (fun c hc => isBlank_eq_false_of_isPlain (htext c hc)) (viewBits rest)
      refine ⟨tail, by rw [viewBits_word htext, htail], fun c hc => ?_⟩
      rcases hhead with rfl | hspace | hrest
      · cases hc
      · rw [hspace] at hc
        cases hc
        decide
      · rcases head?_viewBits hlays.1 (hrest ▸ hc) with rfl | rfl <;> decide

/-! ### Items -/

/-- The words between the commas of some lexemes. -/
def itemsOf : List Lexeme → List (List (List Char))
  | [] => [[]]
  | .word text :: rest => (itemsOf rest).modifyHead (text :: ·)
  | .comma :: rest => [] :: itemsOf rest
  | .opening :: rest | .closing :: rest => itemsOf rest

lemma itemWords_comma (text : List Char) : itemWords (',' :: text) = [] :: itemWords text :=
  itemWords_append_comma (fun _ hc => absurd hc List.not_mem_nil) text

lemma itemWords_cons {c : Char} (hc : isBlank c = true) (text : List Char) :
    itemWords (c :: text) = itemWords text := by
  obtain ⟨item, items, hitems⟩ := List.exists_cons_of_ne_nil (itemWords_ne_nil text)
  have happend := itemWords_append_cons hc [] text
  rw [hitems] at happend ⊢
  exact happend

/-- A word before a space or a comma is the first one of the first item. -/
lemma itemWords_word_append {text : List Char} (hne : text ≠ [])
    (htext : ∀ c ∈ text, isPlain c = true) {rest : List Char}
    (hrest : ∀ c ∈ rest.head?, c = ' ' ∨ c = ',') :
    itemWords (text ++ rest) = (itemWords rest).modifyHead (text :: ·) := by
  have hcomma : ∀ c ∈ text, (c == ',') = false :=
    fun c hc => beq_eq_false_iff_ne.2 (ne_of_class (htext c hc) (by decide))
  have hword : words text = [text] :=
    words_of_ink hne fun c hc => isBlank_eq_false_of_isPlain (htext c hc)
  cases rest with
  | nil =>
    rw [List.append_nil, itemWords_of_forall hcomma, hword]
    rfl
  | cons c rest =>
    rcases hrest c rfl with rfl | rfl
    · obtain ⟨item, items, hitems⟩ := List.exists_cons_of_ne_nil (itemWords_ne_nil rest)
      rw [itemWords_append_cons (by decide), itemWords_cons (by decide), itemWords_of_forall hcomma,
        hword, hitems]
      rfl
    · rw [itemWords_append_comma hcomma, itemWords_comma, hword]
      rfl

/-- The items that a layout leaves are those of its words and commas. -/
lemma itemWords_viewBits {bits : List Bit} (hplain : PlainWords bits) {depth : Nat}
    (hlays : Lays depth bits) : itemWords (viewBits bits) = itemsOf (inks bits) := by
  induction bits generalizing depth with
  | nil => rfl
  | cons bit rest ih =>
    obtain ⟨depth', hrest⟩ := hlays.tail
    have hitems := ih hplain.tail hrest
    cases hink : bit.ink? with
    | none =>
      rw [inks, List.filterMap_cons_none hink, viewBits, List.flatMap_cons,
        Bit.view_of_ink?_eq_none hink, List.singleton_append, itemWords_cons (by decide)]
      exact hitems
    | some l =>
      rw [inks, List.filterMap_cons_some hink]
      obtain rfl := Bit.eq_of_ink? hink
      cases l with
      | word text =>
        obtain ⟨hne, htext⟩ := hplain _ List.mem_cons_self
        rw [viewBits_word htext, itemWords_word_append hne htext fun c hc =>
          head?_viewBits hlays.1 hc, hitems]
        rfl
      | comma =>
        rw [itemsOf, ← inks, ← hitems]
        exact itemWords_comma (viewBits rest)
      | opening | closing => cases hink

/-- The first words of items; an item without words has none. -/
def firstNames (items : List (List (List Char))) : List String :=
  items.filterMap fun item => item.head?.map String.ofList

lemma firstNames_cons (word : List Char) (item : List (List Char))
    (items : List (List (List Char))) :
    firstNames ((word :: item) :: items) = String.ofList word :: firstNames items := rfl

/-- The names that a list imports are the first words of its items. -/
lemma importedNames_eq (list : List Char) : importedNames list = firstNames (itemWords list) := by
  rw [itemWords, firstNames, List.filterMap_map]
  rfl

/-- A name with its alias adds its words to the item where it stands, its name first. -/
lemma exists_itemsOf_nameLexemes (entry : Identifier × Option Identifier) (rest : List Lexeme) :
    ∃ more, itemsOf (nameLexemes entry ++ rest) =
      (itemsOf rest).modifyHead fun item => entry.1.text :: (more ++ item) := by
  rcases entry with ⟨name, _ | other⟩
  · exact ⟨[], rfl⟩
  · refine ⟨[['a', 's'], other.text], ?_⟩
    simp only [nameLexemes, List.cons_append, List.nil_append, itemsOf, List.modifyHead_modifyHead]
    rfl

/-- The first words of the items of a list of names are the names, if nothing with a name follows
the list. -/
lemma firstNames_names {names : List (Identifier × Option Identifier)} (hne : names ≠ [])
    {behind : List Lexeme} {items : List (List (List Char))}
    (hbehind : itemsOf behind = [] :: items) (hitems : firstNames items = []) :
    firstNames (itemsOf ([Lexeme.comma].intercalate (names.map nameLexemes) ++ behind)) =
      names.map fun entry => String.ofList entry.1.text := by
  induction names with
  | nil => exact absurd rfl hne
  | cons entry names ih =>
    cases names with
    | nil =>
      obtain ⟨more, hmore⟩ := exists_itemsOf_nameLexemes entry behind
      rw [List.map_singleton, List.intercalate_singleton, hmore, hbehind, List.modifyHead_cons,
        firstNames_cons, hitems]
      rfl
    | cons next names =>
      obtain ⟨more, hmore⟩ := exists_itemsOf_nameLexemes entry
        (.comma :: ([Lexeme.comma].intercalate ((next :: names).map nameLexemes) ++ behind))
      rw [List.map_cons, List.map_cons, List.intercalate_cons_cons, ← List.map_cons,
        List.append_assoc, List.append_assoc, List.singleton_append, hmore, itemsOf,
        List.modifyHead_cons, firstNames_cons, ih (List.cons_ne_nil next names)]
      rfl

/-! ### The lexemes of a statement -/

namespace FromImport

/-- What follows the names, without the bracket. -/
def behindNames : ListForm → List Lexeme
  | .bracketed true => [.comma]
  | .bracketed false | .bare => []

lemma exists_nameList_eq (statement : FromImport) :
    ∃ (first : Identifier) (more : List Lexeme), statement.nameList = .word first.text :: more := by
  obtain ⟨⟨first, other⟩, others, hnames⟩ := List.exists_cons_of_ne_nil statement.names_ne_nil
  refine ⟨first, ?_⟩
  rw [nameList, hnames, List.map_cons]
  cases other <;> cases others.map nameLexemes <;>
    simp [nameLexemes, List.intercalate_cons_cons]

lemma firstNames_nameList (statement : FromImport) (form : ListForm) :
    firstNames (itemsOf (statement.nameList ++ behindNames form)) =
      statement.names.map fun entry => String.ofList entry.1.text := by
  rcases form with _ | (_ | _)
  · exact firstNames_names statement.names_ne_nil rfl rfl
  · exact firstNames_names statement.names_ne_nil rfl rfl
  · exact firstNames_names statement.names_ne_nil rfl rfl

lemma plain_moduleText (statement : FromImport) : (Lexeme.word statement.moduleText).Plain := by
  constructor
  · rw [moduleText, ne_eq, List.append_eq_nil_iff, List.replicate_eq_nil_iff, not_and]
    intro hlevel
    have hmodule := dottedName_ne_empty (statement.reaches.resolve_left (by omega))
    simpa using hmodule
  · intro c hc
    rcases List.mem_append.1 hc with hc | hc
    · rw [(List.mem_replicate.1 hc).2]
      decide
    · exact isPlain_of_mem_dottedName hc

lemma mem_nameList {statement : FromImport} {l : Lexeme} (hl : l ∈ statement.nameList) :
    l = .comma ∨ ∃ text, l = .word text ∧ l.Plain := by
  rcases eq_or_mem_of_mem_intercalate hl with rfl | ⟨lexemes, hlexemes, hmem⟩
  · exact .inl rfl
  · have hid : ∀ id : Identifier, (Lexeme.word id.text).Plain :=
      fun id => ⟨id.ne_nil, fun c hc => id.isPlain_of_mem hc⟩
    have has : (Lexeme.word ['a', 's']).Plain := ⟨by decide, List.all_eq_true.1 (by decide)⟩
    obtain ⟨⟨name, _ | other⟩, -, rfl⟩ := List.mem_map.1 hlexemes
    · rw [List.mem_singleton.1 hmem]
      exact .inr ⟨_, rfl, hid name⟩
    · simp only [nameLexemes, List.mem_cons, List.not_mem_nil, or_false] at hmem
      rcases hmem with rfl | rfl | rfl
      · exact .inr ⟨_, rfl, hid name⟩
      · exact .inr ⟨_, rfl, has⟩
      · exact .inr ⟨_, rfl, hid other⟩

lemma plain_of_mem_lexemes {statement : FromImport} {form : ListForm} {l : Lexeme}
    (hl : l ∈ statement.lexemes form) : l.Plain := by
  have hname : ∀ {l}, l ∈ statement.nameList → l.Plain := by
    intro l hl
    rcases mem_nameList hl with rfl | ⟨text, -, hplain⟩
    · trivial
    · exact hplain
  simp only [lexemes, List.mem_cons] at hl
  rcases hl with rfl | rfl | rfl | hl
  · exact ⟨by decide, isPlain_of_mem_fromWord⟩
  · exact statement.plain_moduleText
  · exact ⟨by decide, isPlain_of_mem_importWord⟩
  · cases form with
    | bare => exact hname hl
    | bracketed trailing =>
      simp only [listLexemes, List.mem_cons, List.mem_append, List.mem_ite_nil_right,
        List.not_mem_nil, or_false] at hl
      rcases hl with rfl | hl | ⟨-, rfl⟩ | rfl
      · trivial
      · exact hname hl
      · trivial
      · trivial

/-- The words and commas of a statement. -/
lemma filterMap_ink?_lexemes (statement : FromImport) (form : ListForm) :
    (statement.lexemes form).filterMap Lexeme.ink? =
      .word fromWord :: .word statement.moduleText :: .word importWord ::
        (statement.nameList ++ behindNames form) := by
  have hnames : statement.nameList.filterMap Lexeme.ink? = statement.nameList := by
    have hsome : ∀ l ∈ statement.nameList, l.ink? = some l := by
      intro l hl
      rcases mem_nameList hl with rfl | ⟨text, rfl, -⟩ <;> rfl
    rw [List.filterMap_congr hsome, List.filterMap_some]
  have hlist : (statement.listLexemes form).filterMap Lexeme.ink? =
      statement.nameList ++ behindNames form := by
    rcases form with _ | (_ | _) <;>
      simp [listLexemes, behindNames, hnames, List.filterMap_cons, Lexeme.ink?]
  rw [← hlist]
  rfl

end FromImport

lemma inks_eq (bits : List Bit) :
    inks bits = (bits.filterMap Bit.lexeme?).filterMap Lexeme.ink? := by
  rw [List.filterMap_filterMap, inks]
  refine List.filterMap_congr fun bit _ => ?_
  rcases bit with l | f <;> rfl

lemma IsLayout.plainWords {statement : FromImport} {bits : List Bit} (h : IsLayout statement bits) :
    PlainWords bits := by
  obtain ⟨form, hform⟩ := h.lexemes
  intro l hl
  have hmem : l ∈ bits.filterMap Bit.lexeme? := List.mem_filterMap.2 ⟨_, hl, rfl⟩
  rw [hform] at hmem
  exact FromImport.plain_of_mem_lexemes hmem

/-! ### Reading a layout -/

variable {statement : FromImport} {bits : List Bit}

/-- What a layout that starts with an identifier leaves can be read as a list of names. -/
lemma isNameList_collapse (hplain : PlainWords bits) {depth : Nat} (hlays : Lays depth bits)
    {first : Identifier} {others : List Lexeme} (hinks : inks bits = .word first.text :: others) :
    IsNameList (collapse (viewBits bits)) := by
  obtain ⟨tail, hcollapse, htail⟩ := exists_collapse_eq hplain hlays hinks
  constructor
  case ne_nil =>
    rw [hcollapse]
    exact List.append_ne_nil_of_left_ne_nil first.ne_nil tail
  case oneLine =>
    intro hmem
    rcases of_mem_collapse hmem with hspace | ⟨-, hblank⟩
    · cases hspace
    · cases hblank
  case inkFirst => exact fun c => isBlank_head?_collapse
  case notImport =>
    intro rest hrest c hc
    rw [Bool.eq_false_iff]
    intro hblank
    have hrest' : ∀ d ∈ rest.head?, isPlain d = false := by
      intro d hd
      obtain rfl : c = d := Option.mem_unique hc hd
      exact isPlain_eq_false_of_isBlank hblank
    -- otherwise the identifier ends where the word `import` does
    have hcut := append_inj_of_forall (fun d hd => first.isPlain_of_mem hd)
      isPlain_of_mem_importWord htail hrest' (hcollapse.symm.trans hrest)
    exact first.ne_import hcut.1

/-- What a layout leaves is a `from` import on one line, with a list of names that imports what the
statement does. -/
lemma IsLayout.exists_collapse_eq (h : IsLayout statement bits) :
    ∃ list, collapse (viewBits bits) = fromWord ++ ' ' :: (statement.moduleText ++ ' ' ::
        (importWord ++ ' ' :: list)) ∧ IsNameList list ∧
      importedNames list = statement.names.map fun entry => String.ofList entry.1.text := by
  obtain ⟨form, hform⟩ := h.lexemes
  obtain ⟨first, more, hlist⟩ := statement.exists_nameList_eq
  have hinks : inks bits = .word fromWord :: .word statement.moduleText :: .word importWord ::
      .word first.text :: (more ++ FromImport.behindNames form) := by
    rw [inks_eq, hform, FromImport.filterMap_ink?_lexemes, hlist]
    rfl
  -- the three words before the list, one after another
  obtain ⟨bits₁, depth₁, hwords₁, hinks₁, hplain₁, hlays₁⟩ :=
    exists_words_eq_cons h.plainWords h.lays hinks
  obtain ⟨bits₂, depth₂, hwords₂, hinks₂, hplain₂, hlays₂⟩ :=
    exists_words_eq_cons hplain₁ hlays₁ hinks₁
  obtain ⟨bits₃, depth₃, hwords₃, hinks₃, hplain₃, hlays₃⟩ :=
    exists_words_eq_cons hplain₂ hlays₂ hinks₂
  have hnames := isNameList_collapse hplain₃ hlays₃ hinks₃
  refine ⟨collapse (viewBits bits₃), ?_, hnames, ?_⟩
  · have htext₂ := collapse_eq_append hwords₃ hnames.ne_nil
    have htext₁ := collapse_eq_append hwords₂ (by rw [htext₂]; simp)
    have htext := collapse_eq_append hwords₁ (by rw [htext₁]; simp)
    rw [htext, htext₁, htext₂]
  · rw [importedNames_eq, itemWords_collapse, itemWords_viewBits hplain₃ hlays₃, hinks₃,
      ← List.cons_append, ← hlist]
    exact statement.firstNames_nameList form

lemma ne_semicolon_of_mem_viewBits (hplain : PlainWords bits) {c : Char} (hc : c ∈ viewBits bits) :
    c ≠ ';' := by
  obtain ⟨bit, hbit, hc⟩ := List.mem_flatMap.1 hc
  rcases bit with (text | _ | _ | _) | f
  · obtain ⟨-, htext⟩ := hplain _ hbit
    rw [Bit.view, Lexeme.source, map_unbracket_plain htext] at hc
    exact ne_of_class (htext c hc) (by decide)
  all_goals
    rw [List.mem_singleton.1 hc]
    decide

/-- A layout leaves one statement. -/
lemma IsLayout.statements_eq (h : IsLayout statement bits) :
    statements (collapse (viewBits bits)) = [collapse (viewBits bits)] := by
  have hfree : ∀ c ∈ collapse (viewBits bits), (c == ';') = false := by
    intro c hc
    rw [beq_eq_false_iff_ne]
    rcases of_mem_collapse hc with rfl | ⟨hmem, -⟩
    · decide
    · exact ne_semicolon_of_mem_viewBits h.plainWords hmem
  obtain ⟨list, hlist, -⟩ := h.exists_collapse_eq
  have hne : collapse (viewBits bits) ≠ [] := by
    rw [hlist]
    simp [fromWord]
  rw [statements, pieces_of_forall hfree, List.map_singleton, trim_collapse]
  simp [hne]

/-- A line that starts with the word `from` and a space is looked at. -/
lemma holdsImport_of_start {line : List Char} (h : fromWord ++ [' '] <+: line) :
    holdsImport line = true := by
  obtain ⟨rest, rfl⟩ := h
  have hfree : ∀ c ∈ fromWord ++ [' '], (c == ';') = false := by simp [fromWord]
  obtain ⟨first, others, -, hpieces⟩ := pieces_append hfree rest
  have hstart : startsImport (fromWord ++ [' '] ++ first) = true := by
    have htrim : trimStart (fromWord ++ [' '] ++ first) = fromWord ++ [' '] ++ first := rfl
    rw [startsImport, htrim, Bool.or_eq_true, startsWith_iff, startsWith_iff]
    exact .inr (List.prefix_append _ _)
  rw [holdsImport, hpieces, List.any_cons, hstart, Bool.true_or]

/-- The masked lines of a layout import what the statement does, on the line where it begins; the
lines behind are read on their own. -/
lemma IsLayout.exists_imports_eq (h : IsLayout statement bits) (line : Nat)
    (after : List (List Char)) :
    ∃ entries, imports line (lines (maskedBits bits) ++ after) =
        entries ++ imports (line + (lines (maskedBits bits)).length) after ∧
      entries.map Import.target = statement.targets ∧ ∀ entry ∈ entries, entry.line = line := by
  obtain ⟨list, hlist, hnameList, hnames⟩ := h.exists_collapse_eq
  -- the lines of the layout are put together
  obtain ⟨rest, hbits⟩ := h.starts
  have hne : bits ≠ [] := by simp [← hbits]
  have hgathers : Gathers 0 [] bits := gathers_of_lays h.plainWords .nil h.lays (.inr hne)
  obtain ⟨joined, hgather, hphrase⟩ := hgathers [] after
  have hflat : flatten joined = collapse (viewBits bits) := by
    rw [flatten_eq, hphrase]
    rfl
  -- the first of them starts with the word `from`
  have hmasked : maskedBits bits = fromWord ++ [' '] ++ maskedBits rest := by
    rw [← hbits]
    rfl
  have hfree : ∀ c ∈ fromWord ++ [' '], c ≠ '\n' ∧ c ≠ '\r' := by simp [fromWord]
  obtain ⟨first, others, hlines, hfirst⟩ := exists_lines_eq_cons (by decide) hfree (maskedBits rest)
  rw [← hmasked] at hlines
  rw [List.nil_append, hlines, List.cons_append, List.length_cons] at hgather
  refine ⟨statementImports line (collapse (viewBits bits)), ?_, ?_, ?_⟩
  · rw [hlines, List.cons_append, imports_of_gather (holdsImport_of_start hfirst) hgather, hflat,
      h.statements_eq, List.flatMap_singleton, Nat.add_sub_cancel, List.drop_left, List.length_cons,
      Nat.add_assoc]
  · rw [statementImports, List.map_map, hlist, ← statementTargets_from statement hnameList hnames]
    exact List.map_id _
  · intro entry hentry
    obtain ⟨target, -, rfl⟩ := List.mem_map.1 hentry
    rfl

/-! ### One line -/

/-- A single space. -/
def space : Bit := .filler (.blank ' ')

/-- A name with its alias on one line. -/
def nameText : Identifier × Option Identifier → List Char
  | (name, none) => name.text
  | (name, some other) => name.text ++ [' ', 'a', 's', ' '] ++ other.text

/-- The bits of a name with its alias on one line. -/
def nameBits : Identifier × Option Identifier → List Bit
  | (name, none) => [.lexeme (.word name.text)]
  | (name, some other) =>
    [.lexeme (.word name.text), space, .lexeme (.word ['a', 's']), space,
      .lexeme (.word other.text)]

namespace FromImport

/-- The statement on one line, with single spaces. -/
def oneLine (statement : FromImport) : List Char :=
  fromWord ++ ' ' :: (statement.moduleText ++ ' ' :: (importWord ++ ' ' ::
    [',', ' '].intercalate (statement.names.map nameText)))

/-- The bits of the statement on one line. -/
def oneLineBits (statement : FromImport) : List Bit :=
  .lexeme (.word fromWord) :: space :: .lexeme (.word statement.moduleText) :: space ::
    .lexeme (.word importWord) :: space ::
      [.lexeme .comma, space].intercalate (statement.names.map nameBits)

end FromImport

/-- What respects concatenation goes through lists put together with a separator. -/
lemma map_intercalate {α β : Type} {g : List α → List β} (hnil : g [] = [])
    (happend : ∀ a b, g (a ++ b) = g a ++ g b) (sep : List α) (lists : List (List α)) :
    g (sep.intercalate lists) = (g sep).intercalate (lists.map g) := by
  induction lists with
  | nil => simpa using hnil
  | cons list lists ih =>
    cases lists with
    | nil => simp
    | cons next lists =>
      rw [List.intercalate_cons_cons, happend, happend, ih]
      simp [List.intercalate_cons_cons]

lemma lays_nameBits (entry : Identifier × Option Identifier) {rest : List Bit}
    (hrest : rest = [] ∨ ∃ more, rest = .lexeme .comma :: more) (hlays : Lays 0 rest) :
    Lays 0 (nameBits entry ++ rest) := by
  have hclash : ∀ text, clash (.word text) rest = false := by
    rcases hrest with rfl | ⟨more, rfl⟩ <;> exact fun text => rfl
  have hspace : (Filler.blank ' ').Allowed 0 := by decide
  rcases entry with ⟨name, _ | other⟩
  · exact ⟨hclash name.text, hlays⟩
  · exact ⟨rfl, hspace, List.cons_ne_nil _ _, rfl, hspace, List.cons_ne_nil _ _, hclash other.text,
      hlays⟩

lemma nameBits_ne_nil (entry : Identifier × Option Identifier) : nameBits entry ≠ [] := by
  rcases entry with ⟨name, _ | other⟩ <;> exact List.cons_ne_nil _ _

lemma lays_names {names : List (Identifier × Option Identifier)} (hne : names ≠ []) :
    [.lexeme .comma, space].intercalate (names.map nameBits) ≠ [] ∧
      Lays 0 ([.lexeme .comma, space].intercalate (names.map nameBits)) := by
  induction names with
  | nil => exact absurd rfl hne
  | cons entry names ih =>
    cases names with
    | nil =>
      rw [List.map_singleton, List.intercalate_singleton]
      exact ⟨nameBits_ne_nil entry, by simpa using lays_nameBits entry (.inl rfl) rfl⟩
    | cons next names =>
      obtain ⟨hrest, hlays⟩ := ih (List.cons_ne_nil next names)
      rw [List.map_cons, List.map_cons, List.intercalate_cons_cons, List.append_assoc]
      rw [List.map_cons] at hrest hlays
      refine ⟨List.append_ne_nil_of_left_ne_nil (nameBits_ne_nil entry) _, ?_⟩
      exact lays_nameBits entry (.inr ⟨_, rfl⟩) ⟨rfl, by decide, hrest, hlays⟩

/-- The statement on one line is a layout of it. -/
lemma isLayout_oneLineBits (statement : FromImport) : IsLayout statement statement.oneLineBits where
  lexemes := by
    refine ⟨.bare, ?_⟩
    have hentry : ∀ entry, (nameBits entry).filterMap Bit.lexeme? = nameLexemes entry := by
      rintro ⟨name, _ | other⟩ <;> rfl
    have hnames : ([Bit.lexeme .comma, space].intercalate
        (statement.names.map nameBits)).filterMap Bit.lexeme? = statement.nameList := by
      rw [map_intercalate List.filterMap_nil (fun a b => List.filterMap_append), List.map_map]
      simp only [Function.comp_def, hentry]
      rfl
    rw [FromImport.lexemes, FromImport.listLexemes, ← hnames]
    rfl
  starts := ⟨_, rfl⟩
  lays := by
    obtain ⟨hne, hlays⟩ := lays_names statement.names_ne_nil
    have hspace : (Filler.blank ' ').Allowed 0 := by decide
    exact ⟨rfl, hspace, List.cons_ne_nil _ _, rfl, hspace, List.cons_ne_nil _ _, rfl, hspace, hne,
      hlays⟩

lemma written_oneLineBits (statement : FromImport) :
    written statement.oneLineBits = statement.oneLine := by
  have hentry : ∀ entry, written (nameBits entry) = nameText entry := by
    rintro ⟨name, _ | other⟩ <;> simp [written, nameBits, nameText, Bit.source, Lexeme.source,
      Filler.source, space]
  have hnames : written ([Bit.lexeme .comma, space].intercalate (statement.names.map nameBits)) =
      [',', ' '].intercalate (statement.names.map nameText) := by
    rw [map_intercalate (g := written) rfl fun a b => List.flatMap_append, List.map_map]
    simp only [Function.comp_def, hentry]
    rfl
  rw [FromImport.oneLine, ← hnames]
  simp [written, FromImport.oneLineBits, Bit.source, Lexeme.source, Filler.source, space]

/-- The layout of a `from` import does not matter.  The statement on one line is a layout of it.  In
a file that holds any layout of it, behind lines on which no import begins and where no comment and
no literal is open, the statement imports its targets, all on the line where it begins; the lines
behind the statement are read on their own. -/
theorem imports_layout (statement : FromImport) :
    (∃ bits, IsLayout statement bits ∧ written bits = statement.oneLine) ∧
    ∀ bits, IsLayout statement bits → ∀ (before after : List (List Char)) (content : List Char),
      Masking.modeAfter .python .code before = .code →
      (∀ line ∈ Masking.maskLines .python .code before, holdsImport line = false) →
      lines content = before ++ lines (written bits) ++ after →
      ∀ path, ∃ entries, (outline path content).imports = entries ++
          imports (before.length + 1 + (lines (written bits)).length)
            (Masking.maskLines .python .code after) ∧
        entries.map Import.target = statement.targets ∧
        ∀ entry ∈ entries, entry.line = before.length + 1 := by
  refine ⟨⟨_, isLayout_oneLineBits statement, written_oneLineBits statement⟩, ?_⟩
  intro bits hlayout before after content hmode hbefore hcontent path
  have hregular := Masking.Dialect.regular_of_mem_known (by decide : Masking.Dialect.python ∈ _)
  have htokens := tokens_wellFormed hlayout.plainWords hlayout.lays
  have hmask : Masking.mask .python content = Masking.maskLines .python .code before ++
      (lines (maskedBits bits) ++ Masking.maskLines .python .code after) := by
    rw [Masking.mask, hcontent, ← source_tokens, Masking.maskLines_insert hregular htokens
      (closedAtEnd_tokens bits) hmode, masked_tokens, List.append_assoc]
  have hcount : (lines (written bits)).length = (lines (maskedBits bits)).length := by
    rw [← source_tokens, ← masked_tokens,
      ← (Masking.maskLines_tokens hregular htokens (closedAtEnd_tokens bits)).1,
      Masking.length_maskLines]
  obtain ⟨entries, hentries, htargets, hlines⟩ := hlayout.exists_imports_eq
    (1 + before.length) (Masking.maskLines .python .code after)
  refine ⟨entries, ?_, htargets, fun entry hentry => ?_⟩
  · rw [outline, hmask]
    simp only
    rw [imports_skip hbefore, Masking.length_maskLines, hentries, hcount, Nat.add_comm 1]
  · rw [hlines entry hentry, Nat.add_comm]

/-- `from ..pkg import a as b, c`. -/
def siblingImport : FromImport where
  level := 2
  module := [⟨['p', 'k', 'g'], by decide, List.all_eq_true.1 (by decide), by decide⟩]
  names :=
    [(⟨['a'], by decide, List.all_eq_true.1 (by decide), by decide⟩,
      some ⟨['b'], by decide, List.all_eq_true.1 (by decide), by decide⟩),
     (⟨['c'], by decide, List.all_eq_true.1 (by decide), by decide⟩, none)]
  reaches := .inl (by decide)
  names_ne_nil := by simp

/-- The statement with a backslash before the word `import`, and with the names in brackets on lines
of their own, with comments and a comma behind the last name. -/
def siblingBits : List Bit :=
  [.lexeme (.word fromWord), space, .lexeme (.word ['.', '.', 'p', 'k', 'g']), space,
    .filler (.continuation ['\n']), space, .lexeme (.word importWord), space, .lexeme .opening,
    .filler (.comment " one; (\"".toList ['\r', '\n']), .filler (.blank '\n'),
    .lexeme (.word ['a']), space, .lexeme (.word ['a', 's']), .filler (.blank '\n'),
    .lexeme (.word ['b']), space, .lexeme .comma, .filler (.comment " import two \\".toList ['\n']),
    .lexeme (.word ['c']), .lexeme .comma, .filler (.blank '\n'), .lexeme .closing]

theorem imports_layout_siblingBits :
    let content := ("# from x import y\nz = 1\nfrom ..pkg \\\n import (# one; (\"\r\n" ++
      "\na as\nb ,# import two \\\nc,\n)\nimport w").toList
    IsLayout siblingImport siblingBits ∧
      ∃ entries, (outline "m.py" content).imports = entries ++
          imports 10 (Masking.maskLines .python .code ["import w".toList]) ∧
        entries.map Import.target = [.relative 2 "pkg.a" false, .relative 2 "pkg.c" false] ∧
        ∀ entry ∈ entries, entry.line = 3 := by
  intro content
  let before := ["# from x import y".toList, "z = 1".toList]
  have hlayout : IsLayout siblingImport siblingBits :=
    ⟨⟨.bracketed true, by decide +kernel⟩, by decide +kernel, by decide +kernel⟩
  have hmode : Masking.modeAfter .python .code before = .code := by decide +kernel
  have hbefore : ∀ line ∈ Masking.maskLines .python .code before, holdsImport line = false := by
    decide +kernel
  have hcontent : lines content = before ++ lines (written siblingBits) ++ ["import w".toList] := by
    decide +kernel
  have hcount : (lines (written siblingBits)).length = 7 := by decide +kernel
  have himports := (imports_layout siblingImport).2 siblingBits hlayout before ["import w".toList]
    content hmode hbefore hcontent "m.py"
  rw [hcount] at himports
  exact ⟨hlayout, himports⟩

end Strata.Language.Python

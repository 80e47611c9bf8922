import Strata.Proofs.Text.Parts

/-!
# Words and collapsed texts

A blank ends a word, wherever it stands: everything about the words of a text follows from this
(`words_append_cons`).  Collapsing a text keeps its words (`words_collapse`), and the parts between
separators are those of the text, collapsed (`map_trim_pieces_collapse`); so it also keeps the words
of the items between commas, although a comma may be a word of its own or part of one
(`itemWords_collapse`).
-/

namespace Strata.Text

/-! ### Words -/

lemma words_append_cons {c : Char} (hc : isBlank c = true) (u v : List Char) :
    words (u ++ c :: v) = words u ++ words v := by
  simp only [words, pieces_eq_splitOnP]
  rw [List.splitOnP_append_cons u v hc, List.filter_append]

lemma words_cons {c : Char} (hc : isBlank c = true) (text : List Char) :
    words (c :: text) = words text :=
  words_append_cons hc [] text

/-- Blanks before a text add no word. -/
lemma words_blank_append {u : List Char} (hu : ∀ c ∈ u, isBlank c = true) (v : List Char) :
    words (u ++ v) = words v := by
  induction u with
  | nil => rfl
  | cons c u ih =>
    rw [List.cons_append, words_cons (hu c List.mem_cons_self)]
    exact ih fun c hc => hu c (List.mem_cons_of_mem _ hc)

/-- Blanks behind a text add no word. -/
lemma words_append_blank (u : List Char) {v : List Char} (hv : ∀ c ∈ v, isBlank c = true) :
    words (u ++ v) = words u := by
  cases v with
  | nil => rw [List.append_nil]
  | cons c v =>
    have hrest := words_blank_append (fun d hd => hv d (List.mem_cons_of_mem _ hd)) []
    rw [words_append_cons (hv c List.mem_cons_self), ← List.append_nil v, hrest]
    exact List.append_nil _

/-- A text without blanks is one word. -/
lemma words_of_ink {word : List Char} (hne : word ≠ []) (hword : ∀ c ∈ word, isBlank c = false) :
    words word = [word] := by
  rw [words, pieces_of_forall hword]
  simp [hne]

lemma of_mem_words {text word : List Char} (h : word ∈ words text) :
    word ≠ [] ∧ ∀ c ∈ word, c ∈ text ∧ isBlank c = false := by
  obtain ⟨hpiece, hne⟩ := List.mem_filter.1 h
  refine ⟨by simpa using hne, fun c hc => ⟨mem_of_mem_pieces hpiece hc, ?_⟩⟩
  exact eq_false_of_mem_pieces hpiece hc

/-! ### Trimming -/

/-- Trimming takes blanks from both ends. -/
lemma exists_eq_append_trim (text : List Char) :
    ∃ before after, (∀ c ∈ before, isBlank c = true) ∧ (∀ c ∈ after, isBlank c = true) ∧
      text = before ++ (trim text ++ after) := by
  refine ⟨text.takeWhile isBlank, ((trimStart text).reverse.takeWhile isBlank).reverse, ?_, ?_, ?_⟩
  · exact fun c hc => List.mem_takeWhile_imp hc
  · exact fun c hc => List.mem_takeWhile_imp (List.mem_reverse.1 hc)
  · have hend : trim text ++ ((trimStart text).reverse.takeWhile isBlank).reverse =
        trimStart text := by
      rw [trim, trimEnd, dropEndWhile, ← List.reverse_append, List.takeWhile_append_dropWhile,
        List.reverse_reverse]
    rw [hend, trimStart, List.takeWhile_append_dropWhile]

/-- A text that starts and ends with no blank is trimmed. -/
lemma trim_eq_self {text : List Char} (hhead : ∀ c ∈ text.head?, isBlank c = false)
    (hlast : ∀ c ∈ text.getLast?, isBlank c = false) : trim text = text := by
  have hdrop : ∀ part : List Char, (∀ c ∈ part.head?, isBlank c = false) →
      part.dropWhile isBlank = part := by
    intro part hpart
    cases part with
    | nil => rfl
    | cons c part => rw [List.dropWhile_cons_of_neg (by simp [hpart c rfl])]
  rw [trim, trimStart, hdrop text hhead, trimEnd, dropEndWhile,
    hdrop text.reverse (by simpa using hlast), List.reverse_reverse]

/-- Nothing is left of a text by trimming if and only if it is blank. -/
lemma trim_eq_nil_iff {text : List Char} : trim text = [] ↔ ∀ c ∈ text, isBlank c = true := by
  constructor
  · intro hnil c hc
    obtain ⟨before, after, hbefore, hafter, htext⟩ := exists_eq_append_trim text
    rw [htext, hnil, List.nil_append] at hc
    exact (List.mem_append.1 hc).elim (hbefore c) (hafter c)
  · intro hblank
    have hdrop : text.dropWhile isBlank = [] := List.dropWhile_eq_nil_iff.2 hblank
    rw [trim, trimStart, hdrop]
    rfl

lemma trim_subset (text : List Char) : trim text ⊆ text := by
  obtain ⟨before, after, -, -, htext⟩ := exists_eq_append_trim text
  intro c hc
  rw [htext]
  simp [hc]

/-- Blanks behind a text are trimmed. -/
lemma trim_append_blank (text : List Char) {after : List Char}
    (hafter : ∀ c ∈ after, isBlank c = true) : trim (text ++ after) = trim text := by
  have hnil : after.dropWhile isBlank = [] := List.dropWhile_eq_nil_iff.2 hafter
  have hnil' : after.reverse.dropWhile isBlank = [] :=
    List.dropWhile_eq_nil_iff.2 fun c hc => hafter c (List.mem_reverse.1 hc)
  rw [trim, trimStart, List.dropWhile_append, trim, trimStart]
  split
  · rename_i hempty
    rw [hnil, List.isEmpty_iff.1 hempty]
  · rw [trimEnd, dropEndWhile, List.reverse_append, List.dropWhile_append, hnil']
    rfl

/-- Blanks before a text are trimmed. -/
lemma trim_blank_append {before : List Char} (hbefore : ∀ c ∈ before, isBlank c = true)
    (text : List Char) : trim (before ++ text) = trim text := by
  rw [trim, trimStart, List.dropWhile_append_of_pos hbefore, trim, trimStart]

/-- A text that ends with no blank is trimmed at its start only. -/
lemma trim_concat (text : List Char) {c : Char} (hc : isBlank c = false) :
    trim (text ++ [c]) = trimStart text ++ [c] := by
  have hstart : trimStart (text ++ [c]) = trimStart text ++ [c] := by
    rw [trimStart, List.dropWhile_append, List.dropWhile_cons_of_neg (by simp [hc]), trimStart]
    split
    · rename_i hempty
      rw [List.isEmpty_iff.1 hempty, List.nil_append]
    · rfl
  rw [trim, hstart, trimEnd, dropEndWhile, List.reverse_append, List.reverse_singleton,
    List.singleton_append, List.dropWhile_cons_of_neg (by simp [hc]), List.reverse_cons,
    List.reverse_reverse]

/-! ### Collapsed texts -/

/-- Words put together with spaces are the words of the result. -/
lemma words_intercalate {ws : List (List Char)}
    (hws : ∀ w ∈ ws, w ≠ [] ∧ ∀ c ∈ w, isBlank c = false) : words ([' '].intercalate ws) = ws := by
  induction ws with
  | nil => rfl
  | cons w ws ih =>
    obtain ⟨hne, hink⟩ := hws w List.mem_cons_self
    cases ws with
    | nil => rw [List.intercalate_singleton, words_of_ink hne hink]
    | cons w' ws =>
      rw [List.intercalate_cons_cons, List.append_assoc, List.singleton_append,
        words_append_cons (by decide), words_of_ink hne hink,
        ih fun w hw => hws w (List.mem_cons_of_mem _ hw), List.singleton_append]

lemma words_collapse (text : List Char) : words (collapse text) = words text := by
  refine words_intercalate fun w hw => ?_
  obtain ⟨hne, hink⟩ := of_mem_words hw
  exact ⟨hne, fun c hc => (hink c hc).2⟩

/-- Lists put together with a separator hold nothing else. -/
lemma eq_or_mem_of_mem_intercalate {α : Type} {sep c : α} {texts : List (List α)}
    (hc : c ∈ [sep].intercalate texts) : c = sep ∨ ∃ text ∈ texts, c ∈ text := by
  induction texts with
  | nil => exact absurd hc List.not_mem_nil
  | cons text texts ih =>
    cases texts with
    | nil =>
      rw [List.intercalate_singleton] at hc
      exact .inr ⟨text, List.mem_cons_self, hc⟩
    | cons next texts =>
      rw [List.intercalate_cons_cons, List.append_assoc, List.mem_append, List.mem_append,
        List.mem_singleton] at hc
      rcases hc with hc | hc | hc
      · exact .inr ⟨text, List.mem_cons_self, hc⟩
      · exact .inl hc
      · exact (ih hc).imp id fun ⟨text, htext, hmem⟩ => ⟨text, List.mem_cons_of_mem _ htext, hmem⟩

/-- A collapsed text holds no blanks but spaces, and no other characters than the text. -/
lemma of_mem_collapse {text : List Char} {c : Char} (hc : c ∈ collapse text) :
    c = ' ' ∨ c ∈ text ∧ isBlank c = false := by
  rcases eq_or_mem_of_mem_intercalate hc with rfl | ⟨word, hword, hmem⟩
  · exact .inl rfl
  · exact .inr ((of_mem_words hword).2 c hmem)

/-- A word before a text, and a space between them. -/
lemma collapse_eq_append {text rest word : List Char} (h : words text = word :: words rest)
    (hne : collapse rest ≠ []) : collapse text = word ++ ' ' :: collapse rest := by
  rw [collapse, h]
  rw [collapse] at hne ⊢
  cases hwords : words rest with
  | nil => exact absurd (by rw [hwords]; rfl) hne
  | cons next others =>
    rw [List.intercalate_cons_cons]
    simp

lemma head?_intercalate {sep : Char} {text : List Char} (hne : text ≠ [])
    (texts : List (List Char)) : ([sep].intercalate (text :: texts)).head? = text.head? := by
  cases texts with
  | nil => rw [List.intercalate_singleton]
  | cons next texts =>
    rw [List.intercalate_cons_cons, List.append_assoc, List.head?_append_of_ne_nil _ hne]

lemma getLast?_intercalate {sep : Char} {text : List Char} (hne : text ≠ [])
    (texts : List (List Char)) :
    ([sep].intercalate (texts ++ [text])).getLast? = text.getLast? := by
  induction texts with
  | nil => rw [List.nil_append, List.intercalate_singleton]
  | cons first texts ih =>
    obtain ⟨next, others, hothers⟩ := List.exists_cons_of_ne_nil
      (List.append_ne_nil_of_right_ne_nil texts (List.cons_ne_nil text []))
    rw [hothers] at ih
    obtain ⟨c, hc⟩ := Option.isSome_iff_exists.1 (List.getLast?_isSome.2 hne)
    rw [List.cons_append, hothers, List.intercalate_cons_cons, List.getLast?_append, ih, hc]
    rfl

/-- A collapsed text starts with no blank. -/
lemma isBlank_head?_collapse {text : List Char} {c : Char} (hc : c ∈ (collapse text).head?) :
    isBlank c = false := by
  rw [collapse] at hc
  cases hwords : words text with
  | nil =>
    rw [hwords] at hc
    cases hc
  | cons word others =>
    obtain ⟨hne, hink⟩ := of_mem_words (hwords ▸ List.mem_cons_self : word ∈ words text)
    rw [hwords, head?_intercalate hne] at hc
    exact (hink c (List.mem_of_head? hc)).2

/-- A collapsed text ends with no blank. -/
lemma isBlank_getLast?_collapse {text : List Char} {c : Char}
    (hc : c ∈ (collapse text).getLast?) : isBlank c = false := by
  rw [collapse] at hc
  rcases List.eq_nil_or_concat' (words text) with hwords | ⟨others, word, hwords⟩
  · rw [hwords] at hc
    cases hc
  · obtain ⟨hne, hink⟩ := of_mem_words (by rw [hwords]; simp : word ∈ words text)
    rw [hwords, getLast?_intercalate hne] at hc
    exact (hink c (List.mem_of_getLast? hc)).2

lemma trim_collapse (text : List Char) : trim (collapse text) = collapse text :=
  trim_eq_self (fun _ => isBlank_head?_collapse) (fun _ => isBlank_getLast?_collapse)

/-- The first piece of a text is empty or starts as the text does. -/
lemma head?_of_pieces {p : Char → Bool} {text first : List Char} {others : List (List Char)}
    (h : pieces p text = first :: others) : first = [] ∨ first.head? = text.head? := by
  cases text with
  | nil =>
    obtain ⟨rfl, -⟩ := List.cons.inj h
    exact .inl rfl
  | cons c text =>
    rw [pieces] at h
    split at h
    · obtain ⟨rfl, -⟩ := List.cons.inj h
      exact .inl rfl
    · split at h
      · obtain ⟨rfl, -⟩ := List.cons.inj h
        exact .inr rfl
      · obtain ⟨rfl, -⟩ := List.cons.inj h
        exact .inr rfl

/-- Characters that separate no pieces belong to the first piece. -/
lemma pieces_append {p : Char → Bool} {u : List Char} (hu : ∀ c ∈ u, p c = false) (v : List Char) :
    ∃ first others, pieces p v = first :: others ∧ pieces p (u ++ v) = (u ++ first) :: others := by
  induction u with
  | nil =>
    obtain ⟨first, others, hv⟩ := List.exists_cons_of_ne_nil (pieces_ne_nil p v)
    exact ⟨first, others, hv, hv⟩
  | cons c u ih =>
    obtain ⟨first, others, hv, huv⟩ := ih fun d hd => hu d (List.mem_cons_of_mem _ hd)
    refine ⟨first, others, hv, ?_⟩
    rw [List.cons_append, pieces, hu c List.mem_cons_self, huv]
    rfl

/-- A text that starts with a part without blanks starts with it when it is collapsed.  What
follows the part is then nothing, a space, or what follows it in the text. -/
lemma exists_collapse_append {u : List Char} (hne : u ≠ []) (hu : ∀ c ∈ u, isBlank c = false)
    (v : List Char) :
    ∃ tail, collapse (u ++ v) = u ++ tail ∧
      (tail = [] ∨ tail.head? = some ' ' ∨ tail.head? = v.head?) := by
  obtain ⟨first, others, hv, huv⟩ := pieces_append hu v
  have hwords : words (u ++ v) = (u ++ first) :: others.filter fun piece => !piece.isEmpty := by
    rw [words, huv, List.filter_cons_of_pos (by simp [hne])]
  have htail : ∃ tail, collapse (u ++ v) = u ++ (first ++ tail) ∧
      (tail = [] ∨ tail.head? = some ' ') := by
    rw [collapse, hwords]
    cases others.filter fun piece => !piece.isEmpty with
    | nil => exact ⟨[], by simp, .inl rfl⟩
    | cons w ws =>
      refine ⟨' ' :: [' '].intercalate (w :: ws), ?_, .inr rfl⟩
      rw [List.intercalate_cons_cons]
      simp
  obtain ⟨tail, hcollapse, htail⟩ := htail
  refine ⟨first ++ tail, hcollapse, ?_⟩
  rcases head?_of_pieces hv with rfl | hfirst
  · exact htail.imp id .inl
  · cases first with
    | nil => exact htail.imp id .inl
    | cons c first => exact .inr (.inr hfirst)

/-! ### Collapsing character by character -/

lemma words_trim (text : List Char) : words (trim text) = words text := by
  obtain ⟨before, after, hbefore, hafter, htext⟩ := exists_eq_append_trim text
  calc words (trim text)
      = words (trim text ++ after) := (words_append_blank _ hafter).symm
    _ = words (before ++ (trim text ++ after)) := (words_blank_append hbefore _).symm
    _ = words text := by rw [← htext]

lemma collapse_blank_append {u : List Char} (hu : ∀ c ∈ u, isBlank c = true) (v : List Char) :
    collapse (u ++ v) = collapse v := by
  rw [collapse, words_blank_append hu, collapse]

/-- What separates a character from the words of the text behind it. -/
def gap (text : List Char) : List Char :=
  if text.head?.any isBlank && !(words text).isEmpty then [' '] else []

lemma isBlank_of_mem_gap {text : List Char} {c : Char} (hc : c ∈ gap text) : isBlank c = true := by
  rw [gap, List.mem_ite_nil_right, List.mem_singleton] at hc
  rw [hc.2]
  decide

lemma intercalate_cons_head (sep c : Char) (word : List Char) (others : List (List Char)) :
    [sep].intercalate ((c :: word) :: others) = c :: [sep].intercalate (word :: others) := by
  cases others with
  | nil => rfl
  | cons next others => simp [List.intercalate_cons_cons]

lemma collapse_cons {c : Char} (hc : isBlank c = false) (text : List Char) :
    collapse (c :: text) = c :: (gap text ++ collapse text) := by
  have hword : words [c] = [[c]] := words_of_ink (by simp) (by simpa using hc)
  cases text with
  | nil =>
    rw [collapse, hword]
    rfl
  | cons d text =>
    by_cases hd : isBlank d = true
    · -- the character is a word of its own
      have hwords : words (c :: d :: text) = [c] :: words (d :: text) := by
        rw [words_cons hd, ← List.singleton_append, words_append_cons hd, hword]
        rfl
      rw [collapse, hwords, collapse, gap]
      cases words (d :: text) with
      | nil => simp
      | cons word others => simp [List.intercalate_cons_cons, hd]
    · -- the character belongs to the first word of the text
      obtain ⟨first, others, hfirst, hcons⟩ :=
        pieces_append (p := isBlank) (u := [d]) (by simpa using hd) text
      obtain ⟨first', others', hfirst', hcons'⟩ :=
        pieces_append (p := isBlank) (u := [c]) (by simpa using hc) (d :: text)
      rw [List.singleton_append] at hcons hcons'
      obtain ⟨rfl, rfl⟩ := List.cons.inj (hfirst'.symm.trans hcons)
      rw [collapse, collapse, words, words, hcons, hcons', List.filter_cons_of_pos (by simp),
        List.filter_cons_of_pos (by simp), List.singleton_append, intercalate_cons_head, gap]
      simp [hd]

/-- A character that is no blank stays where it is when a text is collapsed: before it the
collapsed text before, behind it the one behind, and blanks between. -/
lemma exists_collapse_append_cons (u : List Char) {c : Char} (hc : isBlank c = false)
    (v : List Char) :
    ∃ before, (∀ b ∈ before, isBlank b = true) ∧
      collapse (u ++ c :: v) = (collapse u ++ before) ++ c :: (gap v ++ collapse v) := by
  induction u with
  | nil => exact ⟨[], by simp, collapse_cons hc v⟩
  | cons a u ih =>
    obtain ⟨before, hbefore, hcollapse⟩ := ih
    by_cases ha : isBlank a = true
    · refine ⟨before, hbefore, ?_⟩
      rw [List.cons_append, collapse, words_cons ha, ← collapse, hcollapse, collapse,
        ← words_cons ha u, ← collapse]
    · rw [Bool.not_eq_true] at ha
      rw [List.cons_append, collapse_cons ha, collapse_cons ha, hcollapse]
      cases hu : words u with
      | nil =>
        -- no words lie between the two characters
        refine ⟨gap (u ++ c :: v) ++ before, ?_, ?_⟩
        · intro b hb
          exact (List.mem_append.1 hb).elim isBlank_of_mem_gap (hbefore b)
        · have hempty : collapse u = [] := by rw [collapse, hu]; rfl
          simp [gap, hu, hempty]
      | cons word others =>
        refine ⟨before, hbefore, ?_⟩
        have hgap : gap (u ++ c :: v) = gap u := by
          have hne : u ≠ [] := by
            rintro rfl
            cases hu
          have hwords : words (u ++ c :: v) ≠ [] := by
            intro hnil
            rw [collapse, hnil] at hcollapse
            simp at hcollapse
          rw [gap, gap, List.head?_append_of_ne_nil _ hne, hu]
          simp [hwords]
        rw [hgap]
        simp

lemma gap_eq_nil_or (text : List Char) :
    gap text = [] ∧ (words text ≠ [] → ∀ c ∈ text.head?, isBlank c = false) ∨
      gap text = [' '] ∧ ∃ b rest, isBlank b = true ∧ text = b :: rest := by
  rw [gap]
  cases text with
  | nil => simp
  | cons c text =>
    split
    · rename_i hgap
      have hc : isBlank c = true := (Bool.and_eq_true_iff.1 hgap).1
      exact .inr ⟨rfl, c, text, hc, rfl⟩
    · rename_i hgap
      refine .inl ⟨rfl, fun hwords => ?_⟩
      simpa [hwords] using hgap

/-- A text that begins with a word and a space when it is collapsed begins with blanks, the word and
a blank. -/
lemma exists_trimStart_eq_append {word : List Char} (hne : word ≠ [])
    (hword : ∀ c ∈ word, isBlank c = false) {text rest : List Char}
    (h : collapse text = word ++ ' ' :: rest) :
    ∃ b rest', isBlank b = true ∧ trimStart text = word ++ b :: rest' := by
  have htrim : collapse (trimStart text) = word ++ ' ' :: rest := by
    rw [← h, ← collapse_blank_append (fun c hc => List.mem_takeWhile_imp hc) (trimStart text),
      trimStart, List.takeWhile_append_dropWhile]
  have hhead : ∀ c ∈ (trimStart text).head?, isBlank c = false := by
    intro c hc
    have := List.head?_dropWhile_not isBlank text
    rw [← trimStart, Option.mem_def.1 hc] at this
    simpa using this
  clear h
  generalize trimStart text = text at htrim hhead
  induction word generalizing text with
  | nil => exact absurd rfl hne
  | cons c word ih =>
    have hword' : ∀ d ∈ word, isBlank d = false := (List.forall_mem_cons.1 hword).2
    cases text with
    | nil => cases htrim
    | cons a text =>
      rw [collapse_cons (hhead a rfl)] at htrim
      obtain rfl : a = c := (List.cons.inj htrim).1
      have hbehind : gap text ++ collapse text = word ++ ' ' :: rest := (List.cons.inj htrim).2
      rcases gap_eq_nil_or text with ⟨hgap, hstart⟩ | ⟨hgap, b, text, hb, rfl⟩ <;>
        rw [hgap] at hbehind
      · rw [List.nil_append] at hbehind
        cases word with
        | nil =>
          have hink : ∀ d ∈ (collapse text).head?, isBlank d = false :=
            fun _ => isBlank_head?_collapse
          rw [hbehind] at hink
          cases hink ' ' rfl
        | cons d word =>
          have hwords : words text ≠ [] := by
            intro hnil
            rw [collapse, hnil] at hbehind
            cases hbehind
          obtain ⟨b, rest', hb, heq⟩ :=
            ih (List.cons_ne_nil d word) hword' text hbehind (hstart hwords)
          exact ⟨b, rest', hb, congrArg (List.cons a) heq⟩
      · cases word with
        | nil => exact ⟨b, text, hb, rfl⟩
        | cons d word =>
          obtain rfl : ' ' = d := (List.cons.inj hbehind).1
          cases hword' ' ' List.mem_cons_self

/-- Cutting a collapsed text gives the parts of the text, collapsed. -/
lemma map_trim_pieces_collapse {sep : Char} (hsep : isBlank sep = false) (text : List Char) :
    (pieces (· == sep) (collapse text)).map trim = (pieces (· == sep) text).map collapse := by
  induction text using pieces_induction (· == sep) with
  | last piece hpiece =>
    have hfree : ∀ c ∈ collapse piece, (c == sep) = false := by
      intro c hc
      rcases of_mem_collapse hc with rfl | ⟨hmem, -⟩
      · rw [beq_eq_false_iff_ne]
        rintro rfl
        cases hsep
      · exact hpiece c hmem
    rw [pieces_of_forall hfree, pieces_of_forall hpiece, List.map_singleton, List.map_singleton,
      trim_collapse]
  | piece first c rest hfirst hc ih =>
    obtain rfl : c = sep := beq_iff_eq.1 hc
    obtain ⟨before, hbefore, hcollapse⟩ := exists_collapse_append_cons first hsep rest
    have hblank : ∀ {b : Char}, isBlank b = true → (b == c) = false := by
      intro b hb
      rw [beq_eq_false_iff_ne]
      rintro rfl
      rw [hsep] at hb
      cases hb
    have hfree : ∀ b ∈ collapse first ++ before, (b == c) = false := by
      intro b hb
      rcases List.mem_append.1 hb with hb | hb
      · rcases of_mem_collapse hb with rfl | ⟨hmem, -⟩
        · exact hblank (by decide)
        · exact hfirst b hmem
      · exact hblank (hbefore b hb)
    obtain ⟨piece, others, hpieces, happend⟩ :=
      pieces_append (fun b hb => hblank (isBlank_of_mem_gap hb)) (collapse rest)
    rw [hcollapse, pieces_append_cons hfree hc, pieces_append_cons hfirst hc, happend,
      List.map_cons, List.map_cons, List.map_cons, ← ih, hpieces, List.map_cons,
      trim_append_blank _ hbefore, trim_collapse,
      trim_blank_append fun _ => isBlank_of_mem_gap]

/-! ### Items between commas -/

/-- The words of each item of a list with commas. -/
def itemWords (text : List Char) : List (List (List Char)) :=
  (pieces (· == ',') text).map words

/-- The last of some lists and the first of some others made one. -/
def glue {α : Type} : List (List α) → List (List α) → List (List α)
  | [], ys => ys
  | [x], [] => [x]
  | [x], y :: ys => (x ++ y) :: ys
  | x :: next :: xs, ys => x :: glue (next :: xs) ys

lemma itemWords_ne_nil (text : List Char) : itemWords text ≠ [] := by
  rw [itemWords, ne_eq, List.map_eq_nil_iff]
  exact pieces_ne_nil _ _

lemma itemWords_append_comma {u : List Char} (hu : ∀ c ∈ u, (c == ',') = false) (v : List Char) :
    itemWords (u ++ ',' :: v) = words u :: itemWords v := by
  rw [itemWords, pieces_append_cons hu (beq_self_eq_true _), List.map_cons, itemWords]

lemma itemWords_of_forall {u : List Char} (hu : ∀ c ∈ u, (c == ',') = false) :
    itemWords u = [words u] := by
  rw [itemWords, pieces_of_forall hu, List.map_singleton]

/-- A blank separates the words before it from those behind it, in the item where it stands. -/
lemma itemWords_append_cons {c : Char} (hc : isBlank c = true) (u v : List Char) :
    itemWords (u ++ c :: v) = glue (itemWords u) (itemWords v) := by
  have hcomma : (c == ',') = false := by
    rw [beq_eq_false_iff_ne]
    rintro rfl
    cases hc
  induction u using pieces_induction (· == ',') with
  | last u hu =>
    have hfree : ∀ d ∈ u ++ [c], (d == ',') = false := by
      intro d hd
      rcases List.mem_append.1 hd with hd | hd
      · exact hu d hd
      · rw [List.mem_singleton.1 hd]
        exact hcomma
    obtain ⟨first, others, hv, huv⟩ := pieces_append hfree v
    rw [List.append_assoc, List.singleton_append] at huv
    rw [itemWords_of_forall hu, itemWords, huv, itemWords, hv, List.map_cons, List.map_cons, glue,
      List.append_assoc, List.singleton_append, words_append_cons hc]
  | piece first sep rest hfirst hsep ih =>
    obtain rfl : sep = ',' := beq_iff_eq.1 hsep
    obtain ⟨item, items, hrest⟩ := List.exists_cons_of_ne_nil (itemWords_ne_nil rest)
    rw [List.append_assoc, List.cons_append, itemWords_append_comma hfirst,
      itemWords_append_comma hfirst, ih, hrest, glue]

/-- Collapsing a text keeps the words of its items. -/
lemma itemWords_collapse (text : List Char) : itemWords (collapse text) = itemWords text := by
  have htrim : words = fun piece => words (trim piece) :=
    funext fun piece => (words_trim piece).symm
  calc itemWords (collapse text)
      = ((pieces (· == ',') (collapse text)).map trim).map words := by
        rw [itemWords, List.map_map]
        exact congrArg (List.map · _) htrim
    _ = ((pieces (· == ',') text).map collapse).map words := by
        rw [map_trim_pieces_collapse (by decide)]
    _ = itemWords text := by
        rw [itemWords, List.map_map]
        exact List.map_congr_left fun piece _ => words_collapse piece

end Strata.Text

import Mathlib.Data.List.Infix
import Strata.Proofs.Text.Parts

/-!
# Beginnings of texts and line ends

What a text starts with is a prefix of it, and what stands after it is the rest.  A line ends at a
line feed or at a carriage return before one; a text is its first line up to that place, the line
end, and the lines that follow.  A place in a text has lines that end before it and a line that it
stands in (`lines_append`).  Lines put together with line feeds are found again
(`exists_lines_append_eq`).
-/

namespace Strata.Text

/-! ### What a text starts with -/

lemma after?_eq_some_iff {start text rest : List Char} :
    after? start text = some rest ↔ text = start ++ rest := by
  fun_induction after? start text with
  | case1 text => simp [eq_comm]
  | case2 => simp
  | case3 start c text ih => simp [ih]
  | case4 a start c text hne => simp [Ne.symm hne]

lemma after?_eq_none_iff {start text : List Char} :
    after? start text = none ↔ ¬ start <+: text := by
  constructor
  · rintro hnone ⟨rest, rfl⟩
    rw [after?_eq_some_iff.2 rfl] at hnone
    cases hnone
  · intro hstart
    by_contra hsome
    obtain ⟨rest, hrest⟩ := Option.ne_none_iff_exists'.1 hsome
    exact hstart ⟨rest, (after?_eq_some_iff.1 hrest).symm⟩

@[simp] lemma startsWith_iff {start text : List Char} :
    startsWith start text = true ↔ start <+: text := by
  rw [startsWith, ← Option.ne_none_iff_isSome, ne_eq, after?_eq_none_iff, not_not]

lemma startsWith_eq_false_iff {start text : List Char} :
    startsWith start text = false ↔ ¬ start <+: text := by
  rw [← startsWith_iff, Bool.not_eq_true]

lemma head?_eq_some_iff_start {text : List Char} {c : Char} :
    text.head? = some c ↔ [c] <+: text := by
  cases text <;> simp [List.cons_prefix_cons, eq_comm]

lemma before?_eq_some_iff {ending text rest : List Char} :
    before? ending text = some rest ↔ text = rest ++ ending := by
  rw [before?, Option.map_eq_some_iff]
  simp only [after?_eq_some_iff]
  constructor
  · rintro ⟨chars, htext, rfl⟩
    rw [← List.reverse_inj, htext]
    simp
  · rintro rfl
    exact ⟨rest.reverse, by simp, by simp⟩

lemma endsWith_iff {ending text : List Char} :
    endsWith ending text = true ↔ ending <:+ text := by
  rw [endsWith, startsWith_iff, List.reverse_prefix]

lemma contains_iff {part text : List Char} : contains part text = true ↔ part <:+: text := by
  induction text with
  | nil => simp [contains]
  | cons c text ih => rw [contains, Bool.or_eq_true, startsWith_iff, ih, List.infix_cons_iff]

lemma beforeEnd?_eq_some_iff {ending text rest : String} :
    beforeEnd? ending text = some rest ↔ text = rest ++ ending := by
  rw [beforeEnd?, Option.map_eq_some_iff]
  simp only [before?_eq_some_iff]
  constructor
  · rintro ⟨chars, htext, rfl⟩
    rw [← String.toList_inj, htext, String.toList_append, String.toList_ofList]
  · rintro rfl
    exact ⟨rest.toList, String.toList_append, String.ofList_toList⟩

/-- A text of blanks only. -/
def Blank (text : List Char) : Prop := ∀ c ∈ text, isBlank c = true

instance (text : List Char) : Decidable (Blank text) :=
  decidable_of_iff (text.all isBlank = true) List.all_eq_true

/-- A text without blanks. -/
def Solid (text : List Char) : Prop := ∀ c ∈ text, isBlank c = false

lemma Solid.append {text text' : List Char} (h : Solid text) (h' : Solid text') :
    Solid (text ++ text') := by
  intro c hc
  rcases List.mem_append.1 hc with hc | hc
  · exact h c hc
  · exact h' c hc

lemma solid_pair {a b : Char} (ha : isBlank a = false) (hb : isBlank b = false) : Solid [a, b] :=
  List.forall_mem_cons.2 ⟨ha, List.forall_mem_singleton.2 hb⟩

lemma solid_replicate {a : Char} (ha : isBlank a = false) (n : Nat) :
    Solid (List.replicate n a) := by
  intro c hc
  rwa [(List.mem_replicate.1 hc).2]

/-- A text without blanks does not start where a blank stands. -/
lemma Solid.not_start {start rest : List Char} {c : Char} (h : Solid start) (hne : start ≠ [])
    (hc : isBlank c = true) : ¬ start <+: c :: rest := by
  obtain ⟨a, more, rfl⟩ := List.exists_cons_of_ne_nil hne
  intro hstart
  rw [List.cons_prefix_cons] at hstart
  have ha := h a List.mem_cons_self
  rw [hstart.1, hc] at ha
  cases ha

/-- What starts a text and holds no blank stands before the first blank. -/
lemma Solid.start_append_iff {start : List Char} (hstart : Solid start) {c : Char}
    (hc : isBlank c = true) (text tail : List Char) :
    start <+: text ++ c :: tail ↔ start <+: text := by
  refine ⟨fun h => ?_, fun h => h.trans (List.prefix_append _ _)⟩
  have hshort : text ++ [c] <+: text ++ c :: tail := ⟨tail, by simp⟩
  by_cases hle : start.length ≤ text.length
  · exact List.prefix_of_prefix_length_le h (List.prefix_append _ _) hle
  · -- a longer start would hold the blank
    have hlong : text ++ [c] <+: start := by
      refine List.prefix_of_prefix_length_le hshort h ?_
      rw [List.length_append, List.length_singleton]
      omega
    have hmem : c ∈ start := hlong.subset (by simp)
    rw [hstart c hmem] at hc
    cases hc

/-- Whether a text starts with something that holds no blank is seen before the first blank. -/
lemma Solid.startsWith_append {start : List Char} (hstart : Solid start) {c : Char}
    (hc : isBlank c = true) (text tail : List Char) :
    startsWith start (text ++ c :: tail) = startsWith start text := by
  rw [Bool.eq_iff_iff, startsWith_iff, startsWith_iff, hstart.start_append_iff hc]

/-- The first word of a text is determined, and so are the blanks before it. -/
lemma Solid.first_inj {lead lead' word word' rest rest' : List Char} (hlead : Blank lead)
    (hlead' : Blank lead') (hword : Solid word) (hword' : Solid word') (hne : word ≠ [])
    (hne' : word' ≠ []) (hrest : ∀ c ∈ rest.head?, isBlank c = true)
    (hrest' : ∀ c ∈ rest'.head?, isBlank c = true)
    (h : lead ++ (word ++ rest) = lead' ++ (word' ++ rest')) :
    lead = lead' ∧ word = word' ∧ rest = rest' := by
  obtain ⟨hblanks, hwords⟩ := append_inj_of_forall hlead hlead'
    (forall_head?_append hne hword rest) (forall_head?_append hne' hword' rest') h
  have hcut := append_inj_of_forall (p := fun c => !isBlank c) (u := word) (v := rest) (w := word')
    (x := rest') (by simpa [Solid] using hword) (by simpa [Solid] using hword')
    (by simpa using hrest) (by simpa using hrest') hwords
  exact ⟨hblanks, hcut⟩

/-! ### Line ends -/

/-- Whether a line ends at the start of a text, with a line feed or with a carriage return before
one. -/
def atLineEnd (text : List Char) : Bool :=
  startsWith ['\n'] text || startsWith ['\r', '\n'] text

/-- The part of a text before its first line end. -/
def upToLineEnd : List Char → List Char
  | [] => []
  | c :: rest => if atLineEnd (c :: rest) then [] else c :: upToLineEnd rest

@[simp] lemma atLineEnd_newline (rest : List Char) : atLineEnd ('\n' :: rest) = true := rfl

@[simp] lemma atLineEnd_return (rest : List Char) : atLineEnd ('\r' :: '\n' :: rest) = true := rfl

lemma atLineEnd_cons_iff {c : Char} {rest : List Char} :
    atLineEnd (c :: rest) = true ↔ c = '\n' ∨ c = '\r' ∧ ['\n'] <+: rest := by
  rw [atLineEnd, Bool.or_eq_true, startsWith_iff, startsWith_iff, List.cons_prefix_cons,
    List.cons_prefix_cons, and_iff_left List.nil_prefix]
  exact or_congr eq_comm (and_congr_left' eq_comm)

lemma atLineEnd_cons_congr {c : Char} {rest rest' : List Char} (h : rest.head? = rest'.head?) :
    atLineEnd (c :: rest) = atLineEnd (c :: rest') := by
  rw [Bool.eq_iff_iff, atLineEnd_cons_iff, atLineEnd_cons_iff, ← head?_eq_some_iff_start,
    ← head?_eq_some_iff_start, h]

/-- A character that no line end is written with starts none. -/
lemma atLineEnd_cons_eq_false {c : Char} (hn : c ≠ '\n') (hr : c ≠ '\r') (rest : List Char) :
    atLineEnd (c :: rest) = false := by
  rw [Bool.eq_false_iff, ne_eq, atLineEnd_cons_iff]
  simp [hn, hr]

lemma upToLineEnd_cons {c : Char} {rest : List Char} (h : atLineEnd (c :: rest) = false) :
    upToLineEnd (c :: rest) = c :: upToLineEnd rest := by
  rw [upToLineEnd, h, if_neg (by simp)]

lemma upToLineEnd_prefix (text : List Char) : upToLineEnd text <+: text := by
  induction text with
  | nil => exact List.nil_prefix
  | cons c rest ih =>
    rw [upToLineEnd]
    split
    · exact List.nil_prefix
    · exact (List.cons_prefix_cons).2 ⟨rfl, ih⟩

/-- A text of other characters stays before the line end. -/
lemma upToLineEnd_append {start : List Char} (hstart : ∀ c ∈ start, c ≠ '\n' ∧ c ≠ '\r')
    (rest : List Char) : upToLineEnd (start ++ rest) = start ++ upToLineEnd rest := by
  induction start with
  | nil => rfl
  | cons c start ih =>
    obtain ⟨hn, hr⟩ := hstart c List.mem_cons_self
    rw [List.cons_append, upToLineEnd_cons (atLineEnd_cons_eq_false hn hr _),
      ih fun other hother => hstart other (List.mem_cons_of_mem _ hother), List.cons_append]

/-- The line end after a first line, with the text behind it; nothing at the end of a text. -/
inductive Tail : List Char → Prop where
  /-- The text ends with the line. -/
  | nil : Tail []
  /-- The line ends with a line feed. -/
  | newline (rest : List Char) : Tail ('\n' :: rest)
  /-- The line ends with a carriage return and a line feed. -/
  | carriage (rest : List Char) : Tail ('\r' :: '\n' :: rest)

/-- What follows a line is nothing, or starts with a line end. -/
lemma tail_iff {tail : List Char} : Tail tail ↔ tail = [] ∨ atLineEnd tail = true := by
  constructor
  · rintro (_ | rest | rest)
    · exact .inl rfl
    · exact .inr (atLineEnd_newline rest)
    · exact .inr (atLineEnd_return rest)
  · rintro (rfl | hend)
    · exact .nil
    · cases tail with
      | nil => exact .nil
      | cons c rest =>
        rcases atLineEnd_cons_iff.1 hend with rfl | ⟨rfl, rest, rfl⟩
        · exact .newline _
        · exact .carriage _

lemma exists_eq_append_tail (text : List Char) :
    ∃ tail, Tail tail ∧ text = upToLineEnd text ++ tail := by
  induction text with
  | nil => exact ⟨[], .nil, rfl⟩
  | cons c rest ih =>
    by_cases hend : atLineEnd (c :: rest) = true
    · exact ⟨c :: rest, tail_iff.2 (.inr hend),
        by rw [upToLineEnd, if_pos hend, List.nil_append]⟩
    · obtain ⟨tail, htail, hrest⟩ := ih
      refine ⟨tail, htail, ?_⟩
      rw [upToLineEnd_cons (Bool.eq_false_iff.2 hend), List.cons_append, ← hrest]

lemma Tail.upToLineEnd_eq {tail : List Char} (htail : Tail tail) : upToLineEnd tail = [] := by
  cases htail <;> rfl

/-- `line` is what stands before the first line end of `line ++ tail`. -/
structure IsFirstLine (line tail : List Char) : Prop where
  /-- No line ends inside of it. -/
  upTo : upToLineEnd (line ++ tail) = line
  /-- One ends after it. -/
  tail : Tail tail

instance (line tail : List Char) : Decidable (IsFirstLine line tail) :=
  decidable_of_iff (upToLineEnd (line ++ tail) = line ∧ (tail = [] ∨ atLineEnd tail = true))
    ⟨fun h => ⟨h.1, tail_iff.2 h.2⟩, fun h => ⟨h.upTo, tail_iff.1 h.tail⟩⟩

lemma isFirstLine_nil {tail : List Char} (htail : Tail tail) : IsFirstLine [] tail :=
  ⟨htail.upToLineEnd_eq, htail⟩

lemma isFirstLine_cons_iff {c : Char} {line tail : List Char} :
    IsFirstLine (c :: line) tail ↔
      atLineEnd (c :: (line ++ tail)) = false ∧ IsFirstLine line tail := by
  constructor
  · rintro ⟨hline, htail⟩
    rw [List.cons_append, upToLineEnd] at hline
    split at hline
    · cases hline
    · rename_i hend
      exact ⟨Bool.eq_false_iff.2 hend, (List.cons.inj hline).2, htail⟩
  · rintro ⟨hend, hline, htail⟩
    exact ⟨by rw [List.cons_append, upToLineEnd_cons hend, hline], htail⟩

lemma IsFirstLine.drop {line tail : List Char} (h : IsFirstLine line tail) (n : Nat) :
    IsFirstLine (line.drop n) tail := by
  induction n generalizing line with
  | zero => exact h
  | succ n ih =>
    cases line with
    | nil => exact h
    | cons c line => exact ih (isFirstLine_cons_iff.1 h).2

lemma IsFirstLine.not_mem {line tail : List Char} (h : IsFirstLine line tail) : '\n' ∉ line := by
  induction line with
  | nil => exact List.not_mem_nil
  | cons c line ih =>
    obtain ⟨hend, hline⟩ := isFirstLine_cons_iff.1 h
    intro hmem
    rcases List.mem_cons.1 hmem with rfl | hmem
    · rw [atLineEnd_newline] at hend
      cases hend
    · exact ih hline hmem

/-! ### Lines -/

lemma closeLines_cons {line : List Char} {others : List (List Char)} (hne : others ≠ []) :
    closeLines (line :: others) = dropReturn line :: closeLines others := by
  cases others with
  | nil => exact absurd rfl hne
  | cons next others => rfl

lemma lines_nil : lines [] = [] := rfl

/-- A text without a line feed is one line, or none. -/
lemma lines_of_not_mem {line : List Char} (hne : line ≠ []) (hline : '\n' ∉ line) :
    lines line = [line] := by
  rw [lines, pieces_of_forall (beq_eq_false_of_not_mem hline), closeLines,
    if_neg (by simpa using hne)]

lemma lines_append_newline {line : List Char} (hline : '\n' ∉ line) (rest : List Char) :
    lines (line ++ '\n' :: rest) = dropReturn line :: lines rest := by
  rw [lines, pieces_append_cons (beq_eq_false_of_not_mem hline) (beq_self_eq_true _),
    closeLines_cons (pieces_ne_nil _ _), lines]

lemma dropReturn_concat (line : List Char) : dropReturn (line ++ ['\r']) = line := by
  simp [dropReturn, before?, after?]

lemma dropReturn_eq_self {line : List Char} (hline : line.getLast? ≠ some '\r') :
    dropReturn line = line := by
  have hnone : after? ['\r'] line.reverse = none := by
    rw [after?_eq_none_iff]
    rintro ⟨rest, hrest⟩
    refine hline ?_
    rw [← List.head?_reverse, ← hrest]
    rfl
  simp [dropReturn, before?, hnone]

/-- A first line that ends with a line feed alone does not end with a carriage return. -/
lemma IsFirstLine.getLast?_ne {line rest : List Char} (h : IsFirstLine line ('\n' :: rest)) :
    line.getLast? ≠ some '\r' := by
  intro hlast
  obtain ⟨start, rfl⟩ := List.getLast?_eq_some_iff.1 hlast
  have hend := h.drop start.length
  rw [List.drop_left] at hend
  have := (isFirstLine_cons_iff.1 hend).1
  rw [List.nil_append, atLineEnd_return] at this
  cases this

/-- What ends a line. -/
def lineEnds : List (List Char) := [['\n'], ['\r', '\n']]

lemma tail_append {ending : List Char} (h : ending ∈ lineEnds) (rest : List Char) :
    Tail (ending ++ rest) := by
  simp only [lineEnds, List.mem_cons, List.not_mem_nil, or_false] at h
  rcases h with rfl | rfl
  · exact .newline rest
  · exact .carriage rest

/-- Whether a line is the first one is seen from the line end behind it. -/
lemma IsFirstLine.append {line ending : List Char} (hending : ending ∈ lineEnds)
    (h : IsFirstLine line ending) (rest : List Char) : IsFirstLine line (ending ++ rest) := by
  have hne : ending ≠ [] := by
    rintro rfl
    revert hending
    decide
  induction line with
  | nil => exact isFirstLine_nil (tail_append hending rest)
  | cons c line ih =>
    obtain ⟨hend, hline⟩ := isFirstLine_cons_iff.1 h
    have hhead : (line ++ (ending ++ rest)).head? = (line ++ ending).head? := by
      rw [← List.append_assoc, List.head?_append_of_ne_nil _ (by simp [hne])]
    exact isFirstLine_cons_iff.2 ⟨(atLineEnd_cons_congr hhead).trans hend, ih hline⟩

/-- A text with a first line and its line end has that line, and the lines of the text behind. -/
lemma IsFirstLine.lines_eq {line ending rest : List Char} (hending : ending ∈ lineEnds)
    (h : IsFirstLine line (ending ++ rest)) :
    lines (line ++ (ending ++ rest)) = line :: lines rest := by
  simp only [lineEnds, List.mem_cons, List.not_mem_nil, or_false] at hending
  rcases hending with rfl | rfl
  · exact (lines_append_newline h.not_mem rest).trans (by rw [dropReturn_eq_self h.getLast?_ne])
  · have hline : '\n' ∉ line ++ ['\r'] := by simp [h.not_mem]
    have heq : line ++ (['\r', '\n'] ++ rest) = (line ++ ['\r']) ++ '\n' :: rest := by simp
    rw [heq, lines_append_newline hline, dropReturn_concat]

/-- The first line of a text starts as the text does. -/
lemma exists_lines_eq_cons {start : List Char} (hne : start ≠ [])
    (hstart : ∀ c ∈ start, c ≠ '\n' ∧ c ≠ '\r') (rest : List Char) :
    ∃ first others, lines (start ++ rest) = first :: others ∧ start <+: first := by
  obtain ⟨tail, htail, htext⟩ := exists_eq_append_tail (start ++ rest)
  have hfirst : IsFirstLine (upToLineEnd (start ++ rest)) tail := ⟨by rw [← htext], htail⟩
  have hline : upToLineEnd (start ++ rest) = start ++ upToLineEnd rest :=
    upToLineEnd_append hstart rest
  rw [hline] at htext hfirst
  rw [htext]
  cases htail with
  | nil =>
    rw [List.append_nil, lines_of_not_mem (by simp [hne]) hfirst.not_mem]
    exact ⟨_, [], rfl, List.prefix_append _ _⟩
  | newline rest' =>
    have hending : ['\n'] ∈ lineEnds := by decide
    exact ⟨_, _, hfirst.lines_eq hending, List.prefix_append _ _⟩
  | carriage rest' =>
    have hending : ['\r', '\n'] ∈ lineEnds := by decide
    exact ⟨_, _, hfirst.lines_eq hending, List.prefix_append _ _⟩

/-- Induction over the lines of a text. -/
@[elab_as_elim]
lemma lines_induction {motive : List Char → Prop} (nil : motive [])
    (last : ∀ line, line ≠ [] → IsFirstLine line [] → motive line)
    (line : ∀ first ending rest, ending ∈ lineEnds → IsFirstLine first (ending ++ rest) →
      motive rest → motive (first ++ (ending ++ rest)))
    (text : List Char) : motive text := by
  induction hn : text.length using Nat.strong_induction_on generalizing text with
  | _ n ih =>
    obtain ⟨tail, htail, htext⟩ := exists_eq_append_tail text
    have hfirst : IsFirstLine (upToLineEnd text) tail := ⟨by rw [← htext], htail⟩
    generalize upToLineEnd text = first at htext hfirst
    subst htext
    cases htail with
    | nil =>
      rw [List.append_nil]
      by_cases hne : first = []
      · exact hne ▸ nil
      · exact last first hne hfirst
    | newline rest =>
      exact line first ['\n'] rest (by simp [lineEnds]) hfirst
        (ih rest.length (by simp [← hn]; omega) rest rfl)
    | carriage rest =>
      exact line first ['\r', '\n'] rest (by simp [lineEnds]) hfirst
        (ih rest.length (by simp [← hn]; omega) rest rfl)

/-- The lines of a text hold no other characters than the text. -/
lemma mem_of_mem_lines {text line : List Char} {c : Char} (hline : line ∈ lines text)
    (hc : c ∈ line) : c ∈ text := by
  induction text using lines_induction with
  | nil => exact absurd hline List.not_mem_nil
  | last first hne hfirst =>
    rw [lines_of_not_mem hne hfirst.not_mem, List.mem_singleton] at hline
    exact hline ▸ hc
  | line first ending rest hending hfirst ih =>
    rw [hfirst.lines_eq hending] at hline
    rcases List.mem_cons.1 hline with rfl | hline
    · exact List.mem_append_left _ hc
    · exact List.mem_append_right _ (List.mem_append_right _ (ih hline))

/-! ### The lines up to a place -/

/-- The lines that end in a text, without their line ends. -/
def closedLines (text : List Char) : List (List Char) :=
  (pieces (· == '\n') text).dropLast.map dropReturn

/-- The part of a text behind its last line feed. -/
def openLine (text : List Char) : List Char :=
  (pieces (· == '\n') text).getLast?.getD []

lemma newline_notMem_openLine (text : List Char) : '\n' ∉ openLine text := by
  intro hmem
  cases hlast : (pieces (· == '\n') text).getLast? with
  | none =>
    rw [openLine, hlast] at hmem
    exact absurd hmem List.not_mem_nil
  | some piece =>
    rw [openLine, hlast] at hmem
    have hne := eq_false_of_mem_pieces (List.mem_of_getLast? hlast) hmem
    exact absurd hne (by decide)

lemma closedLines_of_not_mem {line : List Char} (hline : '\n' ∉ line) : closedLines line = [] := by
  rw [closedLines, pieces_of_forall (beq_eq_false_of_not_mem hline)]
  rfl

lemma openLine_of_not_mem {line : List Char} (hline : '\n' ∉ line) : openLine line = line := by
  rw [openLine, pieces_of_forall (beq_eq_false_of_not_mem hline)]
  rfl

lemma closedLines_append_newline {line : List Char} (hline : '\n' ∉ line) (text : List Char) :
    closedLines (line ++ '\n' :: text) = dropReturn line :: closedLines text := by
  rw [closedLines, pieces_append_cons (beq_eq_false_of_not_mem hline) (beq_self_eq_true _),
    List.dropLast_cons_of_ne_nil (pieces_ne_nil _ _), List.map_cons, closedLines]

lemma openLine_append_newline {line : List Char} (hline : '\n' ∉ line) (text : List Char) :
    openLine (line ++ '\n' :: text) = openLine text := by
  rw [openLine, pieces_append_cons (beq_eq_false_of_not_mem hline) (beq_self_eq_true _),
    ← List.singleton_append, List.getLast?_append_of_ne_nil [line] (pieces_ne_nil _ _), openLine]

/-- Induction over the lines that end in a text. -/
@[elab_as_elim]
lemma closedLines_induction {motive : List Char → Prop} (last : ∀ line, '\n' ∉ line → motive line)
    (line : ∀ first rest, '\n' ∉ first → motive rest → motive (first ++ '\n' :: rest))
    (text : List Char) : motive text := by
  have hfree : ∀ {line : List Char}, (∀ c ∈ line, (c == '\n') = false) → '\n' ∉ line :=
    fun hline hmem => by simpa using hline '\n' hmem
  induction text using pieces_induction (· == '\n') with
  | last piece hpiece => exact last piece (hfree hpiece)
  | piece first sep rest hfirst hsep ih =>
    obtain rfl : sep = '\n' := beq_iff_eq.1 hsep
    exact line first rest (hfree hfirst) ih

/-- A text that goes on has the lines that end in it, and then those that start where its last line
starts. -/
lemma lines_append (text rest : List Char) :
    lines (text ++ rest) = closedLines text ++ lines (openLine text ++ rest) := by
  induction text using closedLines_induction with
  | last line hline => rw [closedLines_of_not_mem hline, openLine_of_not_mem hline, List.nil_append]
  | line first text hfirst ih =>
    rw [closedLines_append_newline hfirst, openLine_append_newline hfirst, List.append_assoc,
      List.cons_append, lines_append_newline hfirst, ih, List.cons_append]

/-- As many lines end in a text as it has line feeds. -/
lemma length_closedLines (text : List Char) : (closedLines text).length = text.count '\n' := by
  induction text using closedLines_induction with
  | last line hline =>
    rw [closedLines_of_not_mem hline, List.count_eq_zero.2 hline, List.length_nil]
  | line first text hfirst ih =>
    rw [closedLines_append_newline hfirst, List.length_cons, ih, List.count_append,
      List.count_eq_zero.2 hfirst, List.count_cons_self, Nat.zero_add]

lemma dropReturn_subset (line : List Char) : dropReturn line ⊆ line := by
  by_cases hlast : line.getLast? = some '\r'
  · obtain ⟨start, rfl⟩ := List.getLast?_eq_some_iff.1 hlast
    rw [dropReturn_concat]
    exact List.subset_append_left _ _
  · rw [dropReturn_eq_self hlast]
    exact List.Subset.refl _

/-- The lines that end in a text of blanks are blank, and so is the line that is left open. -/
lemma Blank.lines {text : List Char} (h : Blank text) :
    (∀ line ∈ closedLines text, Blank line) ∧ Blank (openLine text) := by
  induction text using closedLines_induction with
  | last line hline =>
    rw [closedLines_of_not_mem hline, openLine_of_not_mem hline]
    exact ⟨fun line hmem => absurd hmem List.not_mem_nil, h⟩
  | line first text hfirst ih =>
    obtain ⟨hclosed, hopen⟩ := ih fun c hc => h c (by simp [hc])
    rw [closedLines_append_newline hfirst, openLine_append_newline hfirst]
    refine ⟨List.forall_mem_cons.2 ⟨fun c hc => ?_, hclosed⟩, hopen⟩
    exact h c (List.mem_append_left _ (dropReturn_subset first hc))

/-- A text without line feeds before a first line, which then starts with none, makes it longer. -/
lemma IsFirstLine.append_left {start line tail : List Char} (h : IsFirstLine line tail)
    (hstart : '\n' ∉ start) (hhead : (line ++ tail).head? ≠ some '\n') :
    IsFirstLine (start ++ line) tail := by
  induction start with
  | nil => exact h
  | cons c start ih =>
    obtain ⟨hc, hstart⟩ := not_or.1 (fun hor => hstart (List.mem_cons.2 hor))
    refine isFirstLine_cons_iff.2 ⟨?_, ih hstart⟩
    rw [Bool.eq_false_iff, ne_eq, atLineEnd_cons_iff, ← head?_eq_some_iff_start]
    rintro (rfl | ⟨-, hnext⟩)
    · exact hc rfl
    · cases start with
      | nil => exact hhead hnext
      | cons b start =>
        obtain rfl : b = '\n' := Option.some.inj hnext
        exact hstart List.mem_cons_self

/-- The lines behind a first line do not depend on it. -/
lemma Tail.exists_lines {tail : List Char} (htail : Tail tail) :
    ∃ others, (tail = [] → others = []) ∧ ∀ line, IsFirstLine line tail →
      line ++ tail ≠ [] → lines (line ++ tail) = line :: others := by
  cases htail with
  | nil =>
    refine ⟨[], fun _ => rfl, fun line hfirst hne => ?_⟩
    rw [List.append_nil] at hne ⊢
    exact lines_of_not_mem hne hfirst.not_mem
  | newline rest =>
    have hending : ['\n'] ∈ lineEnds := by decide
    exact ⟨lines rest, nofun, fun line hfirst _ => hfirst.lines_eq hending⟩
  | carriage rest =>
    have hending : ['\r', '\n'] ∈ lineEnds := by decide
    exact ⟨lines rest, nofun, fun line hfirst _ => hfirst.lines_eq hending⟩

/-- The line in which a character stands ends with the first line of what follows the character,
unless the character belongs to the line end. -/
lemma exists_lines_eq_around {line : List Char} (hline : '\n' ∉ line) {c : Char} (hc : c ≠ '\n')
    (after : List Char) : ∃ more rest others,
      upToLineEnd (line ++ c :: after) = line ++ more ∧
      lines (line ++ c :: after) = (line ++ more) :: others ∧
      (more = c :: rest ∨ more = [] ∧ rest = []) ∧
      (lines after = rest :: others ∨ lines after = [] ∧ rest = [] ∧ others = []) := by
  have hhead : (c :: after).head? ≠ some '\n' := fun h => hc (Option.some.inj h)
  by_cases hend : atLineEnd (c :: after) = true
  · -- the character is a carriage return before a line feed
    have htail : Tail (c :: after) := tail_iff.2 (.inr hend)
    have hfirst : IsFirstLine line (c :: after) := by
      have := (isFirstLine_nil htail).append_left hline hhead
      rwa [List.append_nil] at this
    obtain ⟨rfl, behind, rfl⟩ := (atLineEnd_cons_iff.1 hend).resolve_left hc
    refine ⟨[], [], lines behind, ?_, ?_, .inr ⟨rfl, rfl⟩, .inl ?_⟩
    · rw [hfirst.upTo, List.append_nil]
    · rw [List.append_nil]
      exact hfirst.lines_eq (by decide : ['\r', '\n'] ∈ lineEnds)
    · exact lines_append_newline List.not_mem_nil behind
  · obtain ⟨tail, htail, hafter⟩ := exists_eq_append_tail after
    have hrest : IsFirstLine (upToLineEnd after) tail := ⟨by rw [← hafter], htail⟩
    generalize upToLineEnd after = rest at hafter hrest
    subst hafter
    have hfirst : IsFirstLine (line ++ c :: rest) tail := by
      have hcons : IsFirstLine (c :: rest) tail :=
        isFirstLine_cons_iff.2 ⟨Bool.eq_false_iff.2 hend, hrest⟩
      exact hcons.append_left hline hhead
    obtain ⟨others, hnil, hothers⟩ := htail.exists_lines
    have htext : line ++ c :: (rest ++ tail) = (line ++ c :: rest) ++ tail := by simp
    refine ⟨c :: rest, rest, others, ?_, ?_, .inl rfl, ?_⟩
    · rw [htext, hfirst.upTo]
    · rw [htext, hothers _ hfirst (by simp)]
    · by_cases hne : rest ++ tail = []
      · obtain ⟨rfl, rfl⟩ := List.append_eq_nil_iff.1 hne
        exact .inr ⟨rfl, rfl, hnil rfl⟩
      · exact .inl (hothers rest hrest hne)

/-! ### Lines put together -/

/-- What may follow the last line of a text. -/
def fileEnds : List (List Char) := [[], ['\n']]

lemma mem_fileEnds_iff {final : List Char} : final ∈ fileEnds ↔ final = [] ∨ final = ['\n'] := by
  simp [fileEnds]

/-- Lines put together with line feeds are the lines of the text, up to empty ones at its end. -/
lemma exists_lines_append_eq {ls : List (List Char)} (hls : ∀ line ∈ ls, '\n' ∉ line ∧ '\r' ∉ line)
    {final : List Char} (hfinal : final ∈ fileEnds) :
    ∃ more more', (∀ line ∈ more ++ more', line = []) ∧
      lines (['\n'].intercalate ls ++ final) ++ more = ls ++ more' := by
  have hends := mem_fileEnds_iff.1 hfinal
  have hclosed : ∀ line ∈ ls, ∀ rest, lines (line ++ '\n' :: rest) = line :: lines rest := by
    intro line hline rest
    obtain ⟨hfeed, hreturn⟩ := hls line hline
    rw [lines_append_newline hfeed, dropReturn_eq_self fun h => hreturn (List.mem_of_getLast? h)]
  induction ls with
  | nil =>
    rcases hends with rfl | rfl
    · exact ⟨[], [], by simp, rfl⟩
    · exact ⟨[], [[]], by simp, rfl⟩
  | cons line ls ih =>
    obtain ⟨hline, hrest⟩ := List.forall_mem_cons.1 hls
    obtain ⟨hfirst, hothers⟩ := List.forall_mem_cons.1 hclosed
    cases ls with
    | nil =>
      rw [List.intercalate_singleton]
      rcases hends with rfl | rfl
      · by_cases hne : line = []
        · subst hne
          exact ⟨[[]], [], by simp, rfl⟩
        · refine ⟨[], [], by simp, ?_⟩
          rw [List.append_nil, List.append_nil, List.append_nil, lines_of_not_mem hne hline.1]
      · exact ⟨[], [], by simp, by rw [hfirst, lines_nil]⟩
    | cons next ls =>
      obtain ⟨more, more', hmore, heq⟩ := ih hrest hothers
      refine ⟨more, more', hmore, ?_⟩
      rw [List.intercalate_cons_cons, List.append_assoc, List.append_assoc, List.singleton_append,
        hfirst]
      exact congrArg (List.cons line) heq

end Strata.Text

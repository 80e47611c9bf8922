import Strata.Proofs.Pattern.Takes

/-!
# The preferred way to match

Of all ways to match a pattern the first one counts.  In a sequence it is made of the preferred ways
of the parts, as long as each of them lets the rest of the sequence match (`head?_runs_seq`); a
repetition of single characters prefers to take as many as there are (`head?_runs_many`).  Where the
preferred way of a part lets the rest fail, the next one is tried, so it has to be known that the
rest fails there (`runs_seq_eq_nil`).

Where preferences do not matter, all ways to match a sequence are listed by what its parts take
(`mem_runs_seq_iff`), also behind a keyword at the start of a line (`mem_runs_keyworded_iff`).
-/

namespace Strata.Pattern

open Strata.Text

variable {p q : Pattern} {k : CharClass} {s t u : Spot}

/-- The place behind a part of the text that is remembered. -/
def Spot.keep (s : Spot) (n : Nat) (part rest : List Char) : Spot :=
  { s.behind part rest with captures := (n, s.rest, part.length) :: s.captures }

lemma Spot.captured?_keep_self {n : Nat} {part rest : List Char} (h : s.rest = part ++ rest) :
    (s.keep n part rest).captured? n = some part := by
  simp [captured?, keep, h]

lemma Spot.captured?_keep_of_ne {m n : Nat} (h : m ≠ n) (part rest : List Char) :
    (s.keep m part rest).captured? n = s.captured? n := by
  simp [captured?, keep, behind, h]

/-! ### Preferred ways -/

lemma head?_runs_seq (hp : (runs p s).head? = some t) (hq : (runs q t).head? = some u) :
    (runs (.seq p q) s).head? = some u := by
  obtain ⟨more, hmore⟩ := List.head?_eq_some_iff.1 hp
  rw [runs, hmore, List.flatMap_cons, List.head?_append, hq]
  rfl

lemma head?_runs_capture (n : Nat) (part rest : List Char)
    (hp : (runs p s).head? = some (s.behind part rest)) :
    (runs (.capture n p) s).head? = some (s.keep n part rest) := by
  rw [runs, List.head?_map, hp]
  simp [Spot.keep, Spot.behind]

lemma runs_one {c : Char} {rest : List Char} (hs : s.rest = c :: rest) (hc : k.contains c = true) :
    runs (.one k) s = [s.behind [c] rest] := by
  simp [runs, hs, hc, Spot.behind, lastOf]

lemma runs_one_eq_nil (hs : ∀ c ∈ s.rest.head?, k.contains c = false) : runs (.one k) s = [] := by
  cases hrest : s.rest with
  | nil => simp [runs, hrest]
  | cons c rest =>
    have hc : k.contains c = false := hs c (by rw [hrest]; rfl)
    simp [runs, hrest, hc]

/-- A sequence of single characters can be matched in one way at most. -/
lemma runs_text (word : String) (rest : List Char) (hs : s.rest = word.toList ++ rest) :
    runs (text word) s = [s.behind word.toList rest] := by
  unfold text
  generalize word.toList = chars at hs
  induction chars generalizing s with
  | nil =>
    rw [List.nil_append] at hs
    rw [← hs]
    rfl
  | cons c chars ih =>
    have hc : runs (.one (.lit c)) s = [s.behind [c] (chars ++ rest)] :=
      runs_one hs (beq_self_eq_true c)
    by_cases hne : chars = []
    · subst hne
      exact hc
    · rw [List.map_cons, chain_cons _ (by simpa using hne), runs, hc, List.flatMap_singleton,
        ih rfl, Spot.behind_append]
      rfl

/-- One more repetition is preferred to stopping. -/
lemma repetitions_cons {c : Char} {rest : List Char} (hs : s.rest = c :: rest)
    (hc : k.contains c = true) (bound : Nat) :
    repetitions (runs (.one k)) false (bound + 1) s =
      repetitions (runs (.one k)) false bound (s.behind [c] rest) ++ [s] := by
  have htaken : s.taken < (s.behind [c] rest).taken := Nat.lt_succ_self _
  simp [repetitions, runs_one hs hc, htaken]

lemma repetitions_stop (hs : ∀ c ∈ s.rest.head?, k.contains c = false) (bound : Nat) :
    repetitions (runs (.one k)) false bound s = [s] := by
  cases bound with
  | zero => rfl
  | succ bound => simp [repetitions, runs_one_eq_nil hs]

/-- A repetition of characters of a class prefers to take all that there are. -/
lemma head?_runs_many (part rest : List Char) (hs : s.rest = part ++ rest)
    (hpart : ∀ c ∈ part, k.contains c = true) (hrest : ∀ c ∈ rest.head?, k.contains c = false) :
    (runs (many (.one k)) s).head? = some (s.behind part rest) := by
  have hbound : part.length ≤ s.rest.length := by
    rw [hs, List.length_append]
    omega
  rw [many, runs]
  generalize s.rest.length = bound at hbound
  induction part generalizing s bound with
  | nil =>
    rw [List.nil_append] at hs
    rw [repetitions_stop (by rwa [hs]), ← hs]
    rfl
  | cons c part ih =>
    rw [List.length_cons] at hbound
    obtain ⟨bound, rfl⟩ : ∃ b, bound = b + 1 := ⟨bound - 1, by omega⟩
    rw [List.cons_append] at hs
    have hmore := ih (s := s.behind [c] (part ++ rest)) rfl
      (fun d hd => hpart d (List.mem_cons_of_mem _ hd)) bound (by simpa using hbound)
    rw [repetitions_cons hs (hpart c List.mem_cons_self), List.head?_append, hmore,
      Spot.behind_append]
    rfl

lemma head?_runs_some1 (part rest : List Char) (hs : s.rest = part ++ rest) (hne : part ≠ [])
    (hpart : ∀ c ∈ part, k.contains c = true) (hrest : ∀ c ∈ rest.head?, k.contains c = false) :
    (runs (some1 (.one k)) s).head? = some (s.behind part rest) := by
  obtain ⟨c, part, rfl⟩ := List.exists_cons_of_ne_nil hne
  have hc : (runs (.one k) s).head? = some (s.behind [c] (part ++ rest)) := by
    rw [runs_one hs (hpart c List.mem_cons_self)]
    rfl
  refine head?_runs_seq hc ?_
  rw [head?_runs_many part rest rfl (fun d hd => hpart d (List.mem_cons_of_mem _ hd)) hrest,
    Spot.behind_append]
  rfl

/-! ### Where the preferred way fails -/

/-- One or more characters of a class, whichever number of them is preferred. -/
lemma takes_one_star_iff {reluctant : Bool} {before : Option Char} {part rest : List Char} :
    (seq (.one k) (star reluctant (.one k))).Takes before part rest ↔
      part ≠ [] ∧ ∀ c ∈ part, k.contains c = true := by
  rw [takes_seq_iff]
  simp only [takes_one_iff, takes_star_one_iff]
  constructor
  · rintro ⟨_, v, rfl, ⟨c, hc, rfl⟩, hv⟩
    exact ⟨by simp, List.forall_mem_cons.2 ⟨hc, hv⟩⟩
  · rintro ⟨hne, hpart⟩
    obtain ⟨c, v, rfl⟩ := List.exists_cons_of_ne_nil hne
    obtain ⟨hc, hv⟩ := List.forall_mem_cons.1 hpart
    exact ⟨[c], v, rfl, ⟨c, hc, rfl⟩, hv⟩

lemma takes_some1_one_iff {before : Option Char} {part rest : List Char} :
    (some1 (.one k)).Takes before part rest ↔ part ≠ [] ∧ ∀ c ∈ part, k.contains c = true :=
  takes_one_star_iff

/-- A sequence of single characters takes just these. -/
lemma takes_text_iff {word : String} {before : Option Char} {part rest : List Char} :
    (text word).Takes before part rest ↔ part = word.toList := by
  unfold text
  generalize word.toList = chars
  induction chars generalizing before part with
  | nil => exact takes_empty_iff
  | cons c chars ih =>
    have hone : ∀ {before : Option Char} {part rest : List Char},
        (one (.lit c)).Takes before part rest ↔ part = [c] := by
      simp [takes_one_iff, CharClass.contains]
    by_cases hne : chars = []
    · subst hne
      exact hone
    · rw [List.map_cons, chain_cons _ (by simpa using hne), takes_seq_iff]
      simp only [ih, hone]
      constructor
      · rintro ⟨_, _, rfl, rfl, rfl⟩
        rfl
      · rintro rfl
        exact ⟨[c], chars, rfl, rfl, rfl⟩

lemma captureFree_text (word : String) : (text word).captureFree = true := by
  refine captureFree_chain fun p hp => ?_
  obtain ⟨c, -, rfl⟩ := List.mem_map.1 hp
  rfl

/-- One of several strings is taken. -/
lemma takes_texts_iff {words : List String} (hne : words ≠ []) {before : Option Char}
    {part rest : List Char} :
    (texts words).Takes before part rest ↔ ∃ word ∈ words, part = word.toList := by
  unfold texts
  induction words with
  | nil => exact absurd rfl hne
  | cons word words ih =>
    by_cases hnil : words = []
    · subst hnil
      simp [choice, takes_text_iff]
    · rw [List.map_cons, choice_cons _ (by simpa using hnil), takes_alt_iff, takes_text_iff,
        ih hnil, List.exists_mem_cons_iff]

lemma takes_optional_iff {before : Option Char} {part rest : List Char} :
    (optional p).Takes before part rest ↔ p.Takes before part rest ∨ part = [] := by
  rw [optional, takes_alt_iff, takes_empty_iff]

/-- A sequence goes on behind something that its first part takes. -/
lemma mem_runs_seq_iff (hp : p.captureFree = true) :
    t ∈ runs (.seq p q) s ↔ ∃ part rest, s.rest = part ++ rest ∧ p.Takes s.before part rest ∧
      t ∈ runs q (s.behind part rest) := by
  rw [runs, List.mem_flatMap]
  simp only [mem_runs_iff hp s]
  constructor
  · rintro ⟨_, ⟨part, rest, htext, hpart, rfl⟩, ht⟩
    exact ⟨part, rest, htext, hpart, ht⟩
  · rintro ⟨part, rest, htext, hpart, ht⟩
    exact ⟨_, ⟨part, rest, htext, hpart, rfl⟩, ht⟩

/-- A part of a text that is remembered is one that the pattern takes. -/
lemma mem_runs_capture_iff {n : Nat} (hp : p.captureFree = true) :
    t ∈ runs (.capture n p) s ↔ ∃ part rest, s.rest = part ++ rest ∧ p.Takes s.before part rest ∧
      t = s.keep n part rest := by
  have hkeep : ∀ part rest, ({ s.behind part rest with captures :=
      (n, s.rest, (s.behind part rest).taken - s.taken) :: (s.behind part rest).captures } : Spot) =
        s.keep n part rest := by
    intro part rest
    simp [Spot.keep, Spot.behind]
  rw [runs, List.mem_map]
  simp only [mem_runs_iff hp s]
  constructor
  · rintro ⟨_, ⟨part, rest, htext, hpart, rfl⟩, rfl⟩
    exact ⟨part, rest, htext, hpart, hkeep part rest⟩
  · rintro ⟨part, rest, htext, hpart, rfl⟩
    exact ⟨_, ⟨part, rest, htext, hpart, rfl⟩, hkeep part rest⟩

lemma mem_runs_seq_capture_iff {n : Nat} (hp : p.captureFree = true) :
    t ∈ runs (.seq (.capture n p) q) s ↔ ∃ part rest, s.rest = part ++ rest ∧
      p.Takes s.before part rest ∧ t ∈ runs q (s.keep n part rest) := by
  rw [runs, List.mem_flatMap]
  simp only [mem_runs_capture_iff hp]
  constructor
  · rintro ⟨_, ⟨part, rest, htext, hpart, rfl⟩, ht⟩
    exact ⟨part, rest, htext, hpart, ht⟩
  · rintro ⟨part, rest, htext, hpart, ht⟩
    exact ⟨_, ⟨part, rest, htext, hpart, rfl⟩, ht⟩

/-- A part that may be left out is there, or the rest of the sequence comes at once. -/
lemma mem_runs_seq_optional_iff :
    t ∈ runs (.seq (.optional p) q) s ↔ t ∈ runs (.seq p q) s ∨ t ∈ runs q s := by
  simp [runs, optional]

/-- A sequence fails if its second part fails behind everything that the first one takes. -/
lemma runs_seq_eq_nil (hp : p.captureFree = true)
    (h : ∀ part rest, s.rest = part ++ rest → p.Takes s.before part rest →
      runs q (s.behind part rest) = []) : runs (.seq p q) s = [] := by
  refine List.eq_nil_iff_forall_not_mem.2 fun t ht => ?_
  obtain ⟨part, rest, htext, hpart, ht⟩ := (mem_runs_seq_iff hp).1 ht
  rw [h part rest htext hpart] at ht
  cases ht

lemma runs_seq_capture_eq_nil {n : Nat} (hp : p.captureFree = true)
    (h : ∀ part rest, s.rest = part ++ rest → p.Takes s.before part rest →
      runs q (s.keep n part rest) = []) : runs (.seq (.capture n p) q) s = [] := by
  refine List.eq_nil_iff_forall_not_mem.2 fun t ht => ?_
  obtain ⟨part, rest, htext, hpart, ht⟩ := (mem_runs_seq_capture_iff hp).1 ht
  rw [h part rest htext hpart] at ht
  cases ht

/-- A sequence that starts with a character of a class fails where there is none. -/
lemma runs_seq_some1_eq_nil (hs : ∀ c ∈ s.rest.head?, k.contains c = false) :
    runs (.seq (some1 (.one k)) q) s = [] := by
  rw [runs, some1, runs, runs_one_eq_nil hs]
  rfl

/-- If taking a single character lets the rest of a sequence fail, the repetition takes none. -/
lemma runs_seq_many_of_eq_nil {c : Char} {rest : List Char} (hs : s.rest = c :: rest)
    (hc : k.contains c = true) (hrest : ∀ d ∈ rest.head?, k.contains d = false)
    (hq : runs q (s.behind [c] rest) = []) : runs (.seq (many (.one k)) q) s = runs q s := by
  have hmany : runs (many (.one k)) s = [s.behind [c] rest, s] := by
    rw [many, runs, hs, List.length_cons, repetitions_cons hs hc, repetitions_stop hrest]
    rfl
  rw [runs, hmany]
  simp [hq]

/-! ### Lines with a keyword -/

/-- A line that starts with a keyword between blanks and goes on with `tail`. -/
def keyworded (keyword : String) (tail : Pattern) : Pattern :=
  .seq .atStart (.seq .blanks (.seq (.text keyword) (.seq .blanks1 tail)))

/-- The place behind the keyword of a line and the blanks around it. -/
def Spot.behindKeyword (lead : List Char) (keyword : String) (gap rest : List Char) : Spot :=
  (start (lead ++ (keyword.toList ++ (gap ++ rest)))).behind (lead ++ (keyword.toList ++ gap)) rest

lemma Spot.behind_keyword (lead : List Char) (keyword : String) (gap rest : List Char) :
    let line := lead ++ (keyword.toList ++ (gap ++ rest))
    (((start line).behind lead (keyword.toList ++ (gap ++ rest))).behind keyword.toList
      (gap ++ rest)).behind gap rest = behindKeyword lead keyword gap rest := by
  intro line
  have hlead := behind_append (start line) lead (keyword.toList ++ gap) rest
  rw [List.append_assoc] at hlead
  rw [behind_append, hlead]
  rfl

/-- All ways to match such a line. -/
lemma mem_runs_keyworded_iff {keyword : String} {tail : Pattern} {line : List Char} :
    t ∈ runs (keyworded keyword tail) (Spot.start line) ↔
      ∃ lead gap rest, line = lead ++ (keyword.toList ++ (gap ++ rest)) ∧
        (∀ c ∈ lead, isBlank c = true) ∧ (gap ≠ [] ∧ ∀ c ∈ gap, isBlank c = true) ∧
        t ∈ runs tail (Spot.behindKeyword lead keyword gap rest) := by
  constructor
  · intro ht
    obtain ⟨_, text, rfl, hstart, ht⟩ := (mem_runs_seq_iff rfl).1 ht
    obtain ⟨rfl, -⟩ := takes_atStart_iff.1 hstart
    obtain ⟨lead, _, rfl, hlead, ht⟩ := (mem_runs_seq_iff rfl).1 ht
    obtain ⟨_, _, rfl, hkeyword, ht⟩ := (mem_runs_seq_iff (captureFree_text keyword)).1 ht
    obtain rfl := takes_text_iff.1 hkeyword
    obtain ⟨gap, rest, rfl, hgap, ht⟩ := (mem_runs_seq_iff rfl).1 ht
    refine ⟨lead, gap, rest, rfl, takes_star_one_iff.1 hlead, takes_some1_one_iff.1 hgap, ?_⟩
    rw [← Spot.behind_keyword]
    exact ht
  · rintro ⟨lead, gap, rest, rfl, hlead, hgap, ht⟩
    rw [← Spot.behind_keyword] at ht
    exact (mem_runs_seq_iff rfl).2 ⟨[], _, rfl, takes_atStart_iff.2 ⟨rfl, rfl⟩,
      (mem_runs_seq_iff rfl).2 ⟨lead, _, rfl, takes_star_one_iff.2 hlead,
        (mem_runs_seq_iff (captureFree_text keyword)).2 ⟨_, _, rfl, takes_text_iff.2 rfl,
          (mem_runs_seq_iff rfl).2 ⟨gap, rest, rfl, takes_some1_one_iff.2 hgap, ht⟩⟩⟩⟩

/-- Where no blank follows the gap, all blanks before and behind the keyword are taken. -/
lemma match?_keyworded {keyword : String} {tail : Pattern} {lead gap rest : List Char}
    (hlead : ∀ c ∈ lead, isBlank c = true) (hne : keyword.toList ≠ [])
    (hkeyword : ∀ c ∈ keyword.toList.head?, isBlank c = false)
    (hgap : gap ≠ [] ∧ ∀ c ∈ gap, isBlank c = true)
    (hrest : ∀ c ∈ rest.head?, isBlank c = false)
    (h : (runs tail (Spot.behindKeyword lead keyword gap rest)).head? = some t) :
    (keyworded keyword tail).match? (lead ++ (keyword.toList ++ (gap ++ rest))) = some t := by
  rw [← Spot.behind_keyword] at h
  have hhead : ∀ c ∈ (keyword.toList ++ (gap ++ rest)).head?, isBlank c = false := by
    rwa [List.head?_append_of_ne_nil _ hne]
  refine head?_runs_seq rfl (head?_runs_seq (head?_runs_many lead _ rfl hlead hhead)
    (head?_runs_seq ?_ (head?_runs_seq (head?_runs_some1 gap rest rfl hgap.1 hgap.2 hrest) h)))
  rw [runs_text keyword (gap ++ rest) rfl]
  rfl

end Strata.Pattern

import Strata.Proofs.Pattern.Preferred

/-!
# Matching a beginning of a text

A pattern that looks at nothing behind what it takes matches a beginning of a text in the same ways
as the text, as far as these stay inside the beginning, and prefers them in the same order
(`extends_runs`).  So the match that is found in a text is found in every beginning that holds
it (`match?_of_match?_append`), and where a text has no match its beginnings have none.
-/

namespace Strata.Pattern

open Strata.Text

/-! ### Where matches lead -/

namespace Spot

/-- No capture is longer than the text that it starts at. -/
def Tame (s : Spot) : Prop := ∀ entry ∈ s.captures, entry.2.2 ≤ entry.2.1.length

lemma tame_start (text : List Char) : (start text).Tame := fun _ hentry =>
  absurd hentry List.not_mem_nil

/-- The place `t` lies behind `part`, which starts at the place `s`. -/
structure LeadsTo (s t : Spot) (part : List Char) : Prop where
  /-- What follows `s` is the part and what follows `t`. -/
  rest : s.rest = part ++ t.rest
  /-- The part ends right before `t`. -/
  before : t.before = lastOf s.before part
  /-- The part has been taken. -/
  taken : t.taken = s.taken + part.length
  /-- Captures on the way are no longer than the text. -/
  tame : s.Tame → t.Tame

lemma LeadsTo.refl (s : Spot) : s.LeadsTo s [] := ⟨rfl, rfl, rfl, id⟩

lemma LeadsTo.trans {s t u : Spot} {part part' : List Char} (h : s.LeadsTo t part)
    (h' : t.LeadsTo u part') : s.LeadsTo u (part ++ part') where
  rest := by rw [h.rest, h'.rest, List.append_assoc]
  before := by rw [h'.before, h.before, lastOf_append]
  taken := by rw [h'.taken, h.taken, List.length_append, Nat.add_assoc]
  tame hs := h'.tame (h.tame hs)

lemma LeadsTo.suffix {s t : Spot} {part : List Char} (h : s.LeadsTo t part) : t.rest <:+ s.rest :=
  ⟨part, h.rest.symm⟩

lemma LeadsTo.length_rest {s t : Spot} {part : List Char} (h : s.LeadsTo t part) :
    s.rest.length = part.length + t.rest.length := by
  rw [h.rest, List.length_append]

lemma LeadsTo.capture {s t : Spot} {part : List Char} (h : s.LeadsTo t part) (n : Nat) :
    s.LeadsTo { t with captures := (n, s.rest, t.taken - s.taken) :: t.captures } part where
  rest := h.rest
  before := h.before
  taken := h.taken
  tame hs := by
    refine List.forall_mem_cons.2 ⟨?_, h.tame hs⟩
    have hlength := h.length_rest
    have htaken := h.taken
    simp only
    omega

end Spot

/-- A function that lists places, each of them behind some part of the text. -/
def Advances (body : Spot → List Spot) : Prop :=
  ∀ ⦃s t⦄, t ∈ body s → ∃ part, s.LeadsTo t part

lemma Advances.repetitions {body : Spot → List Spot} (hbody : Advances body) (reluctant : Bool)
    (bound : Nat) : Advances (repetitions body reluctant bound) := by
  induction bound with
  | zero =>
    intro s t h
    rw [List.mem_singleton.1 h]
    exact ⟨[], .refl s⟩
  | succ bound ih =>
    intro s t h
    rcases mem_repetitions_succ.1 h with rfl | ⟨u, hu, -, ht⟩
    · exact ⟨[], .refl t⟩
    · obtain ⟨part, hpart⟩ := hbody hu
      obtain ⟨part', hpart'⟩ := ih ht
      exact ⟨part ++ part', hpart.trans hpart'⟩

/-- Every match ends behind the part of the text that it takes. -/
lemma advances_runs (p : Pattern) : Advances (runs p) := by
  induction p with
  | empty =>
    intro s t h
    rw [List.mem_singleton.1 h]
    exact ⟨[], .refl s⟩
  | one k =>
    intro s t h
    cases hrest : s.rest with
    | nil => simp [runs, hrest] at h
    | cons c rest =>
      simp only [runs, hrest, List.mem_ite_nil_right, List.mem_singleton] at h
      obtain ⟨-, rfl⟩ := h
      exact ⟨[c], hrest, rfl, rfl, id⟩
  | seq p q ihp ihq =>
    intro s t h
    obtain ⟨u, hu, ht⟩ := List.mem_flatMap.1 h
    obtain ⟨part, hpart⟩ := ihp hu
    obtain ⟨part', hpart'⟩ := ihq ht
    exact ⟨part ++ part', hpart.trans hpart'⟩
  | alt p q ihp ihq =>
    intro s t h
    rcases List.mem_append.1 h with h | h
    · exact ihp h
    · exact ihq h
  | star reluctant p ih => exact fun s t h => ih.repetitions reluctant s.rest.length h
  | capture n p ih =>
    intro s t h
    obtain ⟨u, hu, rfl⟩ := List.mem_map.1 h
    obtain ⟨part, hpart⟩ := ih hu
    exact ⟨part, hpart.capture n⟩
  | atStart | atEnd | wordEdge =>
    intro s t h
    simp only [runs, List.mem_ite_nil_right, List.mem_singleton] at h
    rw [h.2]
    exact ⟨[], .refl s⟩

/-- Every match ends at a place further on in the text. -/
lemma runs_suffix (p : Pattern) {s t : Spot} (h : t ∈ runs p s) : t.rest <:+ s.rest :=
  (advances_runs p h).elim fun _ hpart => hpart.suffix

/-- Goes on from places where more than `taken` characters have been taken. -/
def further (taken : Nat) (ends : Spot → List Spot) (t : Spot) : List Spot :=
  if taken < t.taken then ends t else []

lemma further_of_lt {taken : Nat} {t : Spot} (h : taken < t.taken) (ends : Spot → List Spot) :
    further taken ends t = ends t :=
  if_pos h

lemma further_of_le {taken : Nat} {t : Spot} (h : t.taken ≤ taken) (ends : Spot → List Spot) :
    further taken ends t = [] :=
  if_neg (Nat.not_lt.2 h)

lemma Advances.further {ends : Spot → List Spot} (hends : Advances ends) (taken : Nat) :
    Advances (further taken ends) := by
  intro s t h
  rw [Pattern.further, List.mem_ite_nil_right] at h
  exact hends h.2

lemma repetitions_succ (body : Spot → List Spot) (reluctant : Bool) (bound : Nat) (s : Spot) :
    repetitions body reluctant (bound + 1) s =
      if reluctant then s :: (body s).flatMap (further s.taken (repetitions body reluctant bound))
      else (body s).flatMap (further s.taken (repetitions body reluctant bound)) ++ [s] := rfl

/-- At the end of the text no repetition takes a character. -/
lemma repetitions_end {body : Spot → List Spot} (hbody : Advances body) (reluctant : Bool)
    (bound : Nat) {s : Spot} (hs : s.rest.length ≤ 0) :
    repetitions body reluctant bound s = [s] := by
  cases bound with
  | zero => rfl
  | succ bound =>
    have hmore :
        (body s).flatMap (further s.taken (repetitions body reluctant bound)) = [] := by
      refine List.flatMap_eq_nil_iff.2 fun t ht => further_of_le ?_ _
      obtain ⟨part, hpart⟩ := hbody ht
      have hlength := hpart.length_rest
      rw [hpart.taken]
      omega
    cases reluctant <;> simp [repetitions_succ, hmore]

/-- More repetitions than there are characters change nothing. -/
lemma repetitions_congr {body : Spot → List Spot} (hbody : Advances body) (reluctant : Bool)
    {bound bound' : Nat} {s : Spot} (h : s.rest.length ≤ bound) (h' : s.rest.length ≤ bound') :
    repetitions body reluctant bound s = repetitions body reluctant bound' s := by
  induction bound generalizing s bound' with
  | zero => rw [repetitions_end hbody reluctant 0 h, repetitions_end hbody reluctant bound' h]
  | succ bound ih =>
    cases bound' with
    | zero => rw [repetitions_end hbody reluctant 0 h', repetitions_end hbody reluctant _ h']
    | succ bound' =>
      have hmore : (body s).flatMap (further s.taken (repetitions body reluctant bound)) =
          (body s).flatMap (further s.taken (repetitions body reluctant bound')) := by
        refine List.flatMap_congr fun t ht => ?_
        obtain ⟨part, hpart⟩ := hbody ht
        have hlength := hpart.length_rest
        have htaken := hpart.taken
        by_cases hlt : s.taken < t.taken
        · rw [further_of_lt hlt, further_of_lt hlt]
          exact ih (by omega) (by omega)
        · rw [further_of_le (by omega), further_of_le (by omega)]
      rw [repetitions_succ, repetitions_succ, hmore]

/-! ### Texts that go on -/

/-- Whether a pattern looks at nothing behind what it takes. -/
def selfContained : Pattern → Bool
  | seq p q | alt p q => p.selfContained && q.selfContained
  | star _ p | capture _ p => p.selfContained
  | empty | one _ | atStart => true
  | atEnd | wordEdge => false

/-- The same place in a text that goes on with `tail`. -/
def Spot.extend (tail : List Char) (s : Spot) : Spot where
  before := s.before
  rest := s.rest ++ tail
  taken := s.taken
  captures := s.captures.map fun entry => (entry.1, entry.2.1 ++ tail, entry.2.2)

lemma Spot.captured_extend {s : Spot} (hs : s.Tame) (tail : List Char) (n : Nat) :
    (s.extend tail).captured n = s.captured n := by
  simp only [captured, captured?, extend, List.find?_map, Function.comp_def, Option.map_map]
  cases hentry : s.captures.find? fun entry => entry.1 == n with
  | none => rfl
  | some entry =>
    have hle := hs entry (List.mem_of_find?_eq_some hentry)
    simp [List.take_append_of_le_length hle]

/-- Whether at least `n` characters follow a place. -/
def Spot.leaves (n : Nat) (s : Spot) : Bool := n ≤ s.rest.length

section Extend

variable {tail : List Char}

@[simp] lemma Spot.taken_extend (s : Spot) : (s.extend tail).taken = s.taken := rfl

lemma Spot.leaves_extend (s : Spot) : (s.extend tail).leaves tail.length = true := by
  simp [leaves, extend]

lemma Spot.LeadsTo.leaves {s t : Spot} {part : List Char} (h : s.LeadsTo t part) {n : Nat}
    (ht : t.leaves n = true) : s.leaves n = true := by
  have hle := h.suffix.length_le
  simp only [Spot.leaves, decide_eq_true_eq] at ht ⊢
  omega

/-- In the longer text, `ends'` lists what `ends` lists, and then what reaches into the tail. -/
def Extends (tail : List Char) (ends' ends : Spot → List Spot) : Prop :=
  ∀ s, (ends' (s.extend tail)).filter (Spot.leaves tail.length) = (ends s).map (Spot.extend tail)

/-- Going on from listed places: those in the tail lead nowhere else. -/
lemma Extends.flatMap {spots spots' : List Spot} {ends ends' : Spot → List Spot}
    (hspots : spots'.filter (Spot.leaves tail.length) = spots.map (Spot.extend tail))
    (hadvances : Advances ends') (hends : Extends tail ends' ends) :
    (spots'.flatMap ends').filter (Spot.leaves tail.length) =
      (spots.flatMap ends).map (Spot.extend tail) := by
  have hinside : (spots'.flatMap ends').filter (Spot.leaves tail.length) =
      (spots'.filter (Spot.leaves tail.length)).flatMap fun t =>
        (ends' t).filter (Spot.leaves tail.length) := by
    clear hspots
    induction spots' with
    | nil => rfl
    | cons t spots' ih =>
      rw [List.flatMap_cons, List.filter_append, ih, List.filter_cons]
      split
      · rw [List.flatMap_cons]
      · rename_i ht
        have hnone : (ends' t).filter (Spot.leaves tail.length) = [] := by
          refine List.filter_eq_nil_iff.2 fun u hu hleaves => ht ?_
          obtain ⟨part, hpart⟩ := hadvances hu
          exact hpart.leaves hleaves
        rw [hnone, List.nil_append]
  rw [hinside, hspots, List.flatMap_map, List.map_flatMap]
  exact List.flatMap_congr fun t _ => hends t

lemma Extends.further {ends ends' : Spot → List Spot} (hends : Extends tail ends' ends)
    (taken : Nat) : Extends tail (further taken ends') (further taken ends) := by
  intro s
  by_cases h : taken < s.taken
  · rw [further_of_lt (s.taken_extend.symm ▸ h), further_of_lt h, hends s]
  · rw [further_of_le (s.taken_extend.symm ▸ Nat.not_lt.1 h), further_of_le (Nat.not_lt.1 h)]
    rfl

lemma Extends.repetitions {body : Spot → List Spot} (hadvances : Advances body)
    (hbody : Extends tail body body) (reluctant : Bool) (bound : Nat) :
    Extends tail (repetitions body reluctant bound) (repetitions body reluctant bound) := by
  induction bound with
  | zero =>
    intro s
    simp [Pattern.repetitions, s.leaves_extend]
  | succ bound ih =>
    intro s
    have hmore := Extends.flatMap (hbody s)
      ((hadvances.repetitions reluctant bound).further s.taken) (ih.further s.taken)
    rw [repetitions_succ, repetitions_succ, Spot.taken_extend]
    cases reluctant <;> simp [hmore, s.leaves_extend]

/-- The ways to match a beginning of a text are the ways to match the text that end inside the
beginning, in the same order. -/
lemma extends_runs (tail : List Char) {p : Pattern} (hp : p.selfContained = true) :
    Extends tail (runs p) (runs p) := by
  induction p with
  | empty =>
    intro s
    simp [runs, s.leaves_extend]
  | one k =>
    intro s
    cases hrest : s.rest with
    | nil =>
      -- what is taken here is taken from the tail
      have hshort : ∀ t ∈ runs (one k) (s.extend tail), ¬ t.leaves tail.length = true := by
        intro t ht
        cases tail with
        | nil => simp [runs, Spot.extend, hrest] at ht
        | cons c tail =>
          simp only [runs, Spot.extend, hrest, List.nil_append, List.mem_ite_nil_right,
            List.mem_singleton] at ht
          simp [ht.2, Spot.leaves]
      rw [List.filter_eq_nil_iff.2 hshort]
      simp [runs, hrest]
    | cons c rest =>
      by_cases hc : k.contains c = true
      · simp [runs, Spot.extend, Spot.leaves, hrest, hc]
      · simp [runs, Spot.extend, hrest, hc]
  | seq p q ihp ihq =>
    obtain ⟨hp, hq⟩ := Bool.and_eq_true_iff.1 hp
    exact fun s => Extends.flatMap (ihp hp s) (advances_runs q) (ihq hq)
  | alt p q ihp ihq =>
    obtain ⟨hp, hq⟩ := Bool.and_eq_true_iff.1 hp
    intro s
    rw [runs, runs, List.filter_append, List.map_append, ihp hp s, ihq hq s]
  | star reluctant p ih =>
    intro s
    have hbound : s.rest.length ≤ (s.extend tail).rest.length := by simp [Spot.extend]
    rw [runs, runs, repetitions_congr (advances_runs p) reluctant (Nat.le_refl _) hbound]
    exact (ih hp).repetitions (advances_runs p) reluctant _ s
  | capture n p ih =>
    intro s
    rw [runs, runs, List.filter_map, List.map_map]
    refine (congrArg _ (ih hp s)).trans ?_
    rw [List.map_map]
    rfl
  | atStart =>
    intro s
    by_cases hs : s.before.isNone = true
    · simp [runs, Spot.extend, Spot.leaves, hs]
    · simp [runs, Spot.extend, hs]
  | atEnd | wordEdge => cases hp

end Extend

/-! ### The preferred match -/

variable {p : Pattern} {text tail : List Char}

lemma Spot.extend_start (text tail : List Char) :
    (Spot.start text).extend tail = Spot.start (text ++ tail) := rfl

/-- Where a text has no match, its beginnings have none. -/
lemma match?_eq_none_of_append (hp : p.selfContained = true)
    (h : p.match? (text ++ tail) = none) : p.match? text = none := by
  have hextends := extends_runs tail hp (Spot.start text)
  rw [match?, List.head?_eq_none_iff] at h ⊢
  rw [Spot.extend_start, h] at hextends
  exact List.map_eq_nil_iff.1 hextends.symm

/-- The match found in a text is found in each beginning that holds it, with the same captures. -/
lemma match?_of_match?_append (hp : p.selfContained = true) {found : Spot}
    (h : p.match? (text ++ tail) = some found) (hfound : found.taken ≤ text.length) :
    ∃ found', p.match? text = some found' ∧ ∀ n, found'.captured n = found.captured n := by
  obtain ⟨others, hothers⟩ := List.head?_eq_some_iff.1 h
  obtain ⟨part, hpart⟩ := advances_runs p (hothers ▸ List.mem_cons_self)
  have hleaves : found.leaves tail.length = true := by
    have hlength := hpart.length_rest
    have htaken := hpart.taken
    simp only [Spot.start, List.length_append] at hlength htaken
    simp only [Spot.leaves, decide_eq_true_eq]
    omega
  have hextends := extends_runs tail hp (Spot.start text)
  rw [Spot.extend_start, hothers, List.filter_cons_of_pos hleaves] at hextends
  obtain ⟨found', others', hruns, rfl, -⟩ := List.map_eq_cons_iff.1 hextends.symm
  refine ⟨found', by rw [match?, hruns, List.head?_cons], fun n => ?_⟩
  obtain ⟨part', hpart'⟩ := advances_runs p (hruns ▸ List.mem_cons_self)
  exact (Spot.captured_extend (hpart'.tame (Spot.tame_start text)) tail n).symm

/-! ### The last character of a match -/

/-- A match of a chain ends with a match of its last link. -/
lemma exists_mem_runs_of_chain {ps : List Pattern} {p : Pattern} (hp : ps.getLast? = some p)
    {s t : Spot} (h : t ∈ runs (chain ps) s) : ∃ u, t ∈ runs p u := by
  obtain ⟨links, rfl⟩ := List.getLast?_eq_some_iff.1 hp
  clear hp
  induction links generalizing s with
  | nil => exact ⟨s, h⟩
  | cons q links ih =>
    rw [List.cons_append, chain_cons q (by simp)] at h
    obtain ⟨u, -, ht⟩ := List.mem_flatMap.1 h
    exact ih ht

lemma exists_before_of_some1 {k : CharClass} {s t : Spot} (h : t ∈ runs (some1 (one k)) s) :
    ∃ c, t.before = some c ∧ k.contains c = true := by
  obtain ⟨part, rest, -, hpart, rfl⟩ := (mem_runs_iff rfl s t).1 h
  obtain ⟨hne, hclass⟩ := takes_some1_one_iff.1 hpart
  refine ⟨part.getLast hne, ?_, hclass _ (List.getLast_mem hne)⟩
  simp [Spot.behind, lastOf, List.getLast?_eq_some_getLast hne]

/-- A match that does not end with a character of a gap ends before the gap, or behind it. -/
lemma taken_le_of_before_ne {gap : List Char} {found : Spot}
    (h : p.match? (text ++ gap ++ tail) = some found) (hgap : ∀ c ∈ gap, found.before ≠ some c)
    (hfound : found.taken ≤ (text ++ gap).length) : found.taken ≤ text.length := by
  obtain ⟨part, hpart⟩ := advances_runs p (List.mem_of_head? h)
  have htaken : found.taken = part.length := by
    rw [hpart.taken, Spot.start, Nat.zero_add]
  have hstart : part <+: text ++ gap := by
    refine List.prefix_of_prefix_length_le ⟨found.rest, hpart.rest.symm⟩ ⟨tail, rfl⟩ ?_
    rwa [← htaken]
  by_contra hlong
  have htext : text <+: part := by
    refine List.prefix_of_prefix_length_le ⟨gap, rfl⟩ hstart ?_
    omega
  -- what the match takes of the gap holds its last character
  obtain ⟨more, rfl⟩ := htext
  have hmore : more <+: gap := (List.prefix_append_right_inj text).1 hstart
  have hne : more ≠ [] := by
    rintro rfl
    rw [List.append_nil] at htaken
    omega
  refine hgap (more.getLast hne) (hmore.subset (List.getLast_mem hne)) ?_
  rw [hpart.before]
  simp [lastOf, List.getLast?_append, List.getLast?_eq_some_getLast hne]

end Strata.Pattern

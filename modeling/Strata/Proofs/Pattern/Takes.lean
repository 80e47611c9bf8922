import Mathlib.Data.List.Basic
import Mathlib.Tactic.Common
import Strata.Pattern

/-!
# What patterns take

A pattern that captures nothing is a regular expression: what it takes from a place on is described
by a relation on texts, which knows nothing of preferences, bounds or places (`Pattern.Takes`).
Listing the ways to match gives exactly the parts of the text that stand in this relation
(`mem_runs_iff`), and keeping each place once on the way loses none of them (`canMatch_iff`).
-/

namespace Strata.Pattern

open Strata.Text

/-- The last character of a text, or of what stands before it if it is empty. -/
def lastOf (before : Option Char) (part : List Char) : Option Char := part.getLast?.or before

lemma lastOf_append (before : Option Char) (u v : List Char) :
    lastOf (lastOf before u) v = lastOf before (u ++ v) := by
  simp [lastOf, List.getLast?_append, Option.or_assoc]

/-- The pattern takes `part` where the character `before` precedes it and `rest` follows.  Captures
take nothing here: the relation is about patterns without them. -/
inductive Takes : Pattern → Option Char → List Char → List Char → Prop where
  /-- The empty pattern takes nothing. -/
  | empty {before rest} : Takes .empty before [] rest
  /-- One character of the class. -/
  | one {k c before rest} (hc : k.contains c = true) : Takes (.one k) before [c] rest
  /-- One pattern after another. -/
  | seq {p q before u v rest} (hp : Takes p before u (v ++ rest))
      (hq : Takes q (lastOf before u) v rest) : Takes (.seq p q) before (u ++ v) rest
  /-- The left alternative. -/
  | left {p q before part rest} (hp : Takes p before part rest) : Takes (.alt p q) before part rest
  /-- The right alternative. -/
  | right {p q before part rest} (hq : Takes q before part rest) : Takes (.alt p q) before part rest
  /-- No repetition. -/
  | stop {reluctant p before rest} : Takes (.star reluctant p) before [] rest
  /-- One more repetition. -/
  | more {reluctant p before u v rest} (hp : Takes p before u (v ++ rest))
      (hv : Takes (.star reluctant p) (lastOf before u) v rest) :
      Takes (.star reluctant p) before (u ++ v) rest
  /-- The start of the text. -/
  | atStart {rest} : Takes .atStart none [] rest
  /-- The end of the text. -/
  | atEnd {before} : Takes .atEnd before [] []
  /-- The edge of a word. -/
  | wordEdge {before rest} (hedge : (before.any isWord != rest.head?.any isWord) = true) :
      Takes .wordEdge before [] rest

section Inversion

variable {p q : Pattern} {before : Option Char} {part rest : List Char}

lemma takes_empty_iff : empty.Takes before part rest ↔ part = [] := by
  constructor
  · rintro ⟨⟩
    rfl
  · rintro rfl
    exact .empty

lemma takes_one_iff {k : CharClass} :
    (one k).Takes before part rest ↔ ∃ c, k.contains c = true ∧ part = [c] := by
  constructor
  · intro h
    cases h with
    | one hc => exact ⟨_, hc, rfl⟩
  · rintro ⟨c, hc, rfl⟩
    exact .one hc

lemma takes_seq_iff : (seq p q).Takes before part rest ↔
    ∃ u v, part = u ++ v ∧ p.Takes before u (v ++ rest) ∧ q.Takes (lastOf before u) v rest := by
  constructor
  · intro h
    cases h with
    | seq hp hq => exact ⟨_, _, rfl, hp, hq⟩
  · rintro ⟨u, v, rfl, hp, hq⟩
    exact .seq hp hq

lemma takes_alt_iff : (alt p q).Takes before part rest ↔
    p.Takes before part rest ∨ q.Takes before part rest := by
  constructor
  · intro h
    cases h with
    | left hp => exact Or.inl hp
    | right hq => exact Or.inr hq
  · rintro (hp | hq)
    · exact .left hp
    · exact .right hq

lemma takes_atStart_iff : atStart.Takes before part rest ↔ part = [] ∧ before = none := by
  constructor
  · rintro ⟨⟩
    exact ⟨rfl, rfl⟩
  · rintro ⟨rfl, rfl⟩
    exact .atStart

lemma takes_atEnd_iff : atEnd.Takes before part rest ↔ part = [] ∧ rest = [] := by
  constructor
  · rintro ⟨⟩
    exact ⟨rfl, rfl⟩
  · rintro ⟨rfl, rfl⟩
    exact .atEnd

lemma takes_wordEdge_iff : wordEdge.Takes before part rest ↔
    part = [] ∧ (before.any isWord != rest.head?.any isWord) = true := by
  constructor
  · intro h
    cases h with
    | wordEdge hedge => exact ⟨rfl, hedge⟩
  · rintro ⟨rfl, hedge⟩
    exact .wordEdge hedge

end Inversion

/-- Whether a pattern holds no capture. -/
def captureFree : Pattern → Bool
  | seq p q | alt p q => p.captureFree && q.captureFree
  | star _ p => p.captureFree
  | capture _ _ => false
  | empty | one _ | atStart | atEnd | wordEdge => true

/-- The place behind a part of the text. -/
def Spot.behind (s : Spot) (part rest : List Char) : Spot where
  before := lastOf s.before part
  rest := rest
  taken := s.taken + part.length
  captures := s.captures

lemma Spot.behind_nil (s : Spot) : s.behind [] s.rest = s := rfl

lemma Spot.behind_append (s : Spot) (u v rest : List Char) :
    (s.behind u (v ++ rest)).behind v rest = s.behind (u ++ v) rest := by
  simp [behind, lastOf_append, Nat.add_assoc]

/-- From each place, the places where the pattern can end are those behind the parts it takes. -/
def Lists (p : Pattern) (ends : Spot → List Spot) : Prop :=
  ∀ s t, t ∈ ends s ↔
    ∃ part rest, s.rest = part ++ rest ∧ p.Takes s.before part rest ∧ t = s.behind part rest

/-! ### Repetitions -/

/-- A repetition takes nothing, or some characters and then a repetition again. -/
lemma takes_star_iff {reluctant : Bool} {p : Pattern} {before : Option Char}
    {part rest : List Char} :
    (star reluctant p).Takes before part rest ↔
      part = [] ∨ ∃ u v, part = u ++ v ∧ u ≠ [] ∧ p.Takes before u (v ++ rest) ∧
        (star reluctant p).Takes (lastOf before u) v rest := by
  constructor
  · intro h
    generalize hq : star reluctant p = q at h
    induction h with
    | stop => exact Or.inl rfl
    | @more _ _ before u v rest hp hv _ ih =>
      cases hq
      -- a repetition that takes nothing can be left out
      by_cases hu : u = []
      · subst hu
        exact ih rfl
      · exact Or.inr ⟨u, v, rfl, hu, hp, hv⟩
    | _ => cases hq
  · rintro (rfl | ⟨u, v, rfl, -, hp, hv⟩)
    · exact .stop
    · exact .more hp hv

/-- Repeating one character takes any text of such characters. -/
lemma takes_star_one_iff {reluctant : Bool} {k : CharClass} {before : Option Char}
    {part rest : List Char} :
    (star reluctant (one k)).Takes before part rest ↔ ∀ c ∈ part, k.contains c = true := by
  constructor
  · intro h
    generalize hq : star reluctant (one k) = q at h
    induction h with
    | stop => simp
    | more hp _ _ ih =>
      cases hq
      obtain ⟨c, hc, rfl⟩ := takes_one_iff.1 hp
      simpa [hc] using ih rfl
    | _ => cases hq
  · intro h
    induction part generalizing before with
    | nil => exact .stop
    | cons c part ih =>
      have hc : (one k).Takes before [c] (part ++ rest) := .one (h c List.mem_cons_self)
      exact .more hc (ih fun d hd => h d (List.mem_cons_of_mem _ hd))

lemma mem_repetitions_succ {body : Spot → List Spot} {reluctant : Bool} {bound : ℕ} {s t : Spot} :
    t ∈ repetitions body reluctant (bound + 1) s ↔
      t = s ∨ ∃ u ∈ body s, s.taken < u.taken ∧ t ∈ repetitions body reluctant bound u := by
  cases reluctant <;> simp [repetitions, or_comm]

/-- As many repetitions as there are characters are enough. -/
lemma mem_repetitions_iff {p : Pattern} {body : Spot → List Spot} (hbody : p.Lists body)
    (reluctant : Bool) {bound : ℕ} {s t : Spot} (hbound : s.rest.length ≤ bound) :
    t ∈ repetitions body reluctant bound s ↔
      ∃ part rest, s.rest = part ++ rest ∧ (star reluctant p).Takes s.before part rest ∧
        t = s.behind part rest := by
  induction bound generalizing s with
  | zero =>
    have hrest : s.rest = [] := List.length_eq_zero_iff.1 (by omega)
    simp only [repetitions, List.mem_singleton]
    constructor
    · rintro rfl
      exact ⟨[], t.rest, rfl, .stop, t.behind_nil.symm⟩
    · rintro ⟨part, rest, htext, -, rfl⟩
      rw [hrest] at htext
      obtain ⟨rfl, rfl⟩ := List.append_eq_nil_iff.1 htext.symm
      have hsame := s.behind_nil
      rwa [hrest] at hsame
  | succ bound ih =>
    rw [mem_repetitions_succ]
    constructor
    · -- what the first repetition leaves is shorter, so the bound still covers it
      rintro (rfl | ⟨_, hmid, htaken, ht⟩)
      · exact ⟨[], t.rest, rfl, .stop, t.behind_nil.symm⟩
      · obtain ⟨u, tail, htext, hu, rfl⟩ := (hbody _ _).1 hmid
        have hlength : tail.length ≤ bound := by
          have := congrArg List.length htext
          simp only [Spot.behind, List.length_append] at htaken this
          omega
        obtain ⟨v, rest, htail, hv, rfl⟩ := (ih hlength).1 ht
        have htail' : tail = v ++ rest := htail
        subst htail'
        refine ⟨u ++ v, rest, ?_, .more hu hv, s.behind_append u v rest⟩
        rw [htext, List.append_assoc]
    · rintro ⟨part, rest, htext, hpart, rfl⟩
      rcases takes_star_iff.1 hpart with rfl | ⟨u, v, rfl, hne, hu, hv⟩
      · left
        rw [List.nil_append] at htext
        rw [← htext, s.behind_nil]
      · right
        have hpos : 0 < u.length := List.length_pos_iff.2 hne
        rw [List.append_assoc] at htext
        have hlength : (v ++ rest).length ≤ bound := by
          have := congrArg List.length htext
          simp only [List.length_append] at this ⊢
          omega
        refine ⟨s.behind u (v ++ rest), (hbody _ _).2 ⟨u, v ++ rest, htext, hu, rfl⟩, ?_, ?_⟩
        · simp only [Spot.behind]
          omega
        · exact (ih hlength).2 ⟨v, rest, rfl, hv, (s.behind_append u v rest).symm⟩

/-! ### All ways to match -/

lemma lists_one (k : CharClass) : (one k).Lists (runs (one k)) := by
  intro s t
  simp only [runs, takes_one_iff]
  constructor
  · intro ht
    cases hrest : s.rest with
    | nil => simp [hrest] at ht
    | cons c rest =>
      simp only [hrest, List.mem_ite_nil_right, List.mem_singleton] at ht
      obtain ⟨hc, rfl⟩ := ht
      exact ⟨[c], rest, rfl, ⟨c, hc, rfl⟩, rfl⟩
  · rintro ⟨part, rest, htext, ⟨c, hc, rfl⟩, rfl⟩
    simp [htext, hc, Spot.behind, lastOf]

lemma Lists.seq {p q : Pattern} (hp : p.Lists (runs p)) (hq : q.Lists (runs q)) :
    (Pattern.seq p q).Lists (runs (.seq p q)) := by
  intro s t
  simp only [runs, List.mem_flatMap, takes_seq_iff]
  constructor
  · rintro ⟨_, hmid, ht⟩
    obtain ⟨u, tail, htext, hu, rfl⟩ := (hp _ _).1 hmid
    obtain ⟨v, rest, htail, hv, rfl⟩ := (hq _ _).1 ht
    have htail' : tail = v ++ rest := htail
    subst htail'
    refine ⟨u ++ v, rest, ?_, ⟨u, v, rfl, hu, hv⟩, s.behind_append u v rest⟩
    rw [htext, List.append_assoc]
  · rintro ⟨_, rest, htext, ⟨u, v, rfl, hu, hv⟩, rfl⟩
    rw [List.append_assoc] at htext
    refine ⟨s.behind u (v ++ rest), (hp _ _).2 ⟨u, v ++ rest, htext, hu, rfl⟩, ?_⟩
    exact (hq _ _).2 ⟨v, rest, rfl, hv, (s.behind_append u v rest).symm⟩

lemma Lists.alt {p q : Pattern} (hp : p.Lists (runs p)) (hq : q.Lists (runs q)) :
    (Pattern.alt p q).Lists (runs (.alt p q)) := by
  intro s t
  simp only [runs, List.mem_append, hp s t, hq s t, takes_alt_iff]
  constructor
  · rintro (⟨part, rest, htext, hpart, rfl⟩ | ⟨part, rest, htext, hpart, rfl⟩)
    · exact ⟨part, rest, htext, Or.inl hpart, rfl⟩
    · exact ⟨part, rest, htext, Or.inr hpart, rfl⟩
  · rintro ⟨part, rest, htext, hpart | hpart, rfl⟩
    · exact Or.inl ⟨part, rest, htext, hpart, rfl⟩
    · exact Or.inr ⟨part, rest, htext, hpart, rfl⟩

/-- A pattern that only looks at its place. -/
lemma lists_of_test {p : Pattern} (test : Spot → Bool)
    (htakes : ∀ s part rest, s.rest = part ++ rest →
      (p.Takes s.before part rest ↔ part = [] ∧ test s = true)) :
    p.Lists fun s => if test s then [s] else [] := by
  intro s t
  simp only [List.mem_ite_nil_right, List.mem_singleton]
  constructor
  · rintro ⟨htest, rfl⟩
    exact ⟨[], t.rest, rfl, (htakes t [] t.rest rfl).2 ⟨rfl, htest⟩, t.behind_nil.symm⟩
  · rintro ⟨part, rest, htext, hpart, rfl⟩
    obtain ⟨rfl, htest⟩ := (htakes s part rest htext).1 hpart
    rw [List.nil_append] at htext
    rw [← htext, s.behind_nil]
    exact ⟨htest, rfl⟩

/-- The ways to match a pattern lead behind the parts that it takes. -/
lemma mem_runs_iff {p : Pattern} (hp : p.captureFree = true) : p.Lists (runs p) := by
  induction p with
  | empty =>
    refine lists_of_test (fun _ => true) fun s part rest _ => ?_
    simp [takes_empty_iff]
  | one k => exact lists_one k
  | seq p q ihp ihq =>
    obtain ⟨hp, hq⟩ := Bool.and_eq_true_iff.1 hp
    exact (ihp hp).seq (ihq hq)
  | alt p q ihp ihq =>
    obtain ⟨hp, hq⟩ := Bool.and_eq_true_iff.1 hp
    exact (ihp hp).alt (ihq hq)
  | star reluctant p ih =>
    intro s t
    exact mem_repetitions_iff (ih hp) reluctant (Nat.le_refl _)
  | capture n p => cases hp
  | atStart =>
    refine lists_of_test (fun s => s.before.isNone) fun s part rest _ => ?_
    rw [takes_atStart_iff, Option.isNone_iff_eq_none]
  | atEnd =>
    refine lists_of_test (fun s => s.rest.isEmpty) fun s part rest htext => ?_
    rw [takes_atEnd_iff]
    refine and_congr_right fun hpart => ?_
    rw [htext, hpart, List.nil_append, List.isEmpty_iff]
  | wordEdge =>
    refine lists_of_test Spot.onWordEdge fun s part rest htext => ?_
    rw [takes_wordEdge_iff]
    refine and_congr_right fun hpart => ?_
    rw [Spot.onWordEdge, htext, hpart, List.nil_append]

/-! ### Place by place -/

/-- The place lies in the text, and nothing has been captured on the way to it. -/
def Spot.In (text : List Char) (s : Spot) : Prop :=
  ∃ part, text = part ++ s.rest ∧ s = (Spot.start text).behind part s.rest

lemma Spot.in_start (text : List Char) : (Spot.start text).In text := ⟨[], rfl, rfl⟩

/-- Places in one text are the same if as much has been taken. -/
lemma Spot.In.eq_of_taken {text : List Char} {s t : Spot} (hs : s.In text) (ht : t.In text)
    (htaken : s.taken = t.taken) : s = t := by
  obtain ⟨u, hu, hs⟩ := hs
  obtain ⟨v, hv, ht⟩ := ht
  have hlength : u.length = v.length := by
    rw [hs, ht] at htaken
    simpa [behind] using htaken
  obtain ⟨huv, hrest⟩ := List.append_inj (hu.symm.trans hv) hlength
  rw [hs, ht, huv, hrest]

lemma Spot.In.runs {text : List Char} {s t : Spot} (hs : s.In text) {p : Pattern}
    (hp : p.captureFree = true) (ht : t ∈ runs p s) : t.In text := by
  obtain ⟨u, hu, hs⟩ := hs
  obtain ⟨v, rest, hv, -, rfl⟩ := (mem_runs_iff hp s t).1 ht
  refine ⟨u ++ v, ?_, ?_⟩
  · rw [hu, hv, List.append_assoc]
    rfl
  · rw [hs, hv, Spot.behind_append]
    rfl

/-- If as much taken means the same place, keeping each place once keeps all places. -/
lemma mem_distinctPlaces {spots : List Spot}
    (hspots : ∀ s ∈ spots, ∀ t ∈ spots, s.taken = t.taken → s = t) {t : Spot} :
    t ∈ distinctPlaces spots ↔ t ∈ spots := by
  suffices hgoal : ∀ kept : List Spot,
      (∀ s ∈ kept ++ spots, ∀ t ∈ kept ++ spots, s.taken = t.taken → s = t) →
      (t ∈ spots.foldl (fun kept s =>
        if kept.any fun t => t.taken == s.taken then kept else kept ++ [s]) kept ↔
          t ∈ kept ++ spots) from hgoal [] hspots
  clear hspots
  induction spots with
  | nil => simp
  | cons s spots ih =>
    intro kept hkept
    rw [List.foldl_cons]
    by_cases hknown : (kept.any fun t => t.taken == s.taken) = true
    · -- the place is among those kept
      obtain ⟨same, hsame, htaken⟩ := List.any_eq_true.1 hknown
      have hs : s ∈ kept := by
        have heq := hkept same (List.mem_append_left _ hsame) s (by simp) (by simpa using htaken)
        rwa [← heq]
      rw [if_pos hknown, ih kept fun a ha b hb => hkept a (by grind) b (by grind)]
      simp only [List.mem_append, List.mem_cons]
      constructor
      · rintro (ht | ht)
        · exact Or.inl ht
        · exact Or.inr (Or.inr ht)
      · rintro (ht | rfl | ht)
        · exact Or.inl ht
        · exact Or.inl hs
        · exact Or.inr ht
    · rw [if_neg hknown, ih (kept ++ [s]) (by simpa using hkept)]
      simp

lemma mem_distinctPlaces_runs {p : Pattern} (hp : p.captureFree = true) {text : List Char}
    {spots : List Spot} (hspots : ∀ s ∈ spots, s.In text) {t : Spot} :
    t ∈ distinctPlaces (spots.flatMap (runs p)) ↔ ∃ s ∈ spots, t ∈ runs p s := by
  have hends : ∀ s ∈ spots.flatMap (runs p), s.In text := by
    intro s hs
    obtain ⟨first, hfirst, hs⟩ := List.mem_flatMap.1 hs
    exact (hspots first hfirst).runs hp hs
  rw [mem_distinctPlaces fun a ha b hb => (hends a ha).eq_of_taken (hends b hb), List.mem_flatMap]

/-- Going on place by place reaches all places where a pattern can end. -/
lemma mem_reach_iff {p : Pattern} (hp : p.captureFree = true) {text : List Char}
    {spots : List Spot} (hspots : ∀ s ∈ spots, s.In text) {t : Spot} :
    t ∈ reach p spots ↔ ∃ s ∈ spots, t ∈ runs p s := by
  induction p generalizing spots t with
  | seq p q ihp ihq =>
    obtain ⟨hp, hq⟩ := Bool.and_eq_true_iff.1 hp
    -- the places in between lie in the text again
    have hmid : ∀ s ∈ reach p spots, s.In text := by
      intro s hs
      obtain ⟨first, hfirst, hs⟩ := (ihp hp hspots).1 hs
      exact (hspots first hfirst).runs hp hs
    rw [reach, ihq hq hmid]
    simp only [ihp hp hspots, runs, List.mem_flatMap]
    constructor
    · rintro ⟨mid, ⟨s, hs, hmid⟩, ht⟩
      exact ⟨s, hs, mid, hmid, ht⟩
    · rintro ⟨s, hs, mid, hmid, ht⟩
      exact ⟨mid, ⟨s, hs, hmid⟩, ht⟩
  | capture n p => cases hp
  | empty | one | alt | star | atStart | atEnd | wordEdge =>
    exact mem_distinctPlaces_runs hp hspots

/-- There is a way to match from a place if the pattern takes a start of what follows it. -/
lemma exists_mem_runs_iff {p : Pattern} (hp : p.captureFree = true) {s : Spot} :
    (∃ t, t ∈ runs p s) ↔ ∃ part rest, s.rest = part ++ rest ∧ p.Takes s.before part rest := by
  constructor
  · rintro ⟨t, ht⟩
    obtain ⟨part, rest, htext, hpart, -⟩ := (mem_runs_iff hp s t).1 ht
    exact ⟨part, rest, htext, hpart⟩
  · rintro ⟨part, rest, htext, hpart⟩
    exact ⟨_, (mem_runs_iff hp s _).2 ⟨part, rest, htext, hpart, rfl⟩⟩

/-- A pattern can be matched if it takes the text or a start of it. -/
lemma canMatch_iff {p : Pattern} (hp : p.captureFree = true) {text : List Char} :
    p.canMatch text = true ↔ ∃ part rest, text = part ++ rest ∧ p.Takes none part rest := by
  have hstart : ∀ s ∈ [Spot.start text], s.In text := by
    intro s hs
    rw [List.mem_singleton.1 hs]
    exact Spot.in_start text
  have hends : p.canMatch text = true ↔ ∃ t, t ∈ runs p (Spot.start text) := by
    rw [canMatch, Bool.not_eq_true', List.isEmpty_eq_false_iff_exists_mem]
    simp [mem_reach_iff hp hstart]
  rw [hends]
  exact exists_mem_runs_iff hp

/-- A search succeeds if the pattern takes a part of the text, wherever that part starts. -/
lemma searchFrom_isSome_iff {p : Pattern} (hp : p.captureFree = true) {before : Option Char}
    {text : List Char} :
    (searchFrom p before text).isSome = true ↔
      ∃ skipped part rest, text = skipped ++ (part ++ rest) ∧
        p.Takes (lastOf before skipped) part rest := by
  induction text generalizing before with
  | nil =>
    rw [searchFrom, List.isSome_head?, ← List.isEmpty_eq_false_iff,
      List.isEmpty_eq_false_iff_exists_mem, exists_mem_runs_iff hp]
    constructor
    · rintro ⟨part, rest, htext, hpart⟩
      exact ⟨[], part, rest, htext, hpart⟩
    · rintro ⟨skipped, part, rest, htext, hpart⟩
      obtain ⟨rfl, -⟩ := List.append_eq_nil_iff.1 htext.symm
      exact ⟨part, rest, htext, hpart⟩
  | cons c text ih =>
    -- the match starts here, or the search goes on behind the next character
    have hstep : (searchFrom p before (c :: text)).isSome = true ↔
        (∃ t, t ∈ runs p ⟨before, c :: text, 0, []⟩) ∨
          (searchFrom p (some c) text).isSome = true := by
      rw [searchFrom]
      cases hruns : runs p ⟨before, c :: text, 0, []⟩ <;> simp
    rw [hstep, exists_mem_runs_iff hp, ih]
    constructor
    · rintro (⟨part, rest, htext, hpart⟩ | ⟨skipped, part, rest, rfl, hpart⟩)
      · exact ⟨[], part, rest, htext, hpart⟩
      · refine ⟨c :: skipped, part, rest, rfl, ?_⟩
        rwa [← List.singleton_append, ← lastOf_append]
    · rintro ⟨skipped, part, rest, htext, hpart⟩
      cases skipped with
      | nil => exact Or.inl ⟨part, rest, htext, hpart⟩
      | cons d skipped =>
        obtain ⟨rfl, rfl⟩ := List.cons.inj htext
        refine Or.inr ⟨skipped, part, rest, rfl, ?_⟩
        rwa [← List.singleton_append, ← lastOf_append] at hpart

/-! ### Chains -/

lemma chain_cons (p : Pattern) {ps : List Pattern} (hps : ps ≠ []) :
    chain (p :: ps) = seq p (chain ps) := by
  cases ps with
  | nil => exact absurd rfl hps
  | cons q qs => rfl

lemma choice_cons (p : Pattern) {ps : List Pattern} (hps : ps ≠ []) :
    choice (p :: ps) = alt p (choice ps) := by
  cases ps with
  | nil => exact absurd rfl hps
  | cons q ps => rfl

lemma captureFree_chain {ps : List Pattern} (hps : ∀ p ∈ ps, p.captureFree = true) :
    (chain ps).captureFree = true := by
  induction ps with
  | nil => rfl
  | cons p ps ih =>
    have hp : p.captureFree = true := hps p List.mem_cons_self
    by_cases hne : ps = []
    · subst hne
      exact hp
    · rw [chain_cons p hne, captureFree, hp, Bool.true_and]
      exact ih fun q hq => hps q (List.mem_cons_of_mem _ hq)

end Strata.Pattern

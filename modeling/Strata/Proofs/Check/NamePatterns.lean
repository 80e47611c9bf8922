import Mathlib.Data.List.Forall2
import Mathlib.Logic.Relation
import Strata.Check.Profile
import Strata.Proofs.Text.Parts

/-!
# Names that fit a pattern

A name fits a pattern if and only if its segments can be cut into consecutive parts, one for each
segment of the pattern, such that every part is something its segment stands for (`fits_iff`).  The
separators play no role beyond this: dots and slashes can be exchanged, repeated and put at the ends
of a name or of a pattern.  A pattern without wildcards also covers the names below it, so it covers
the names that start with its segments (`covers_iff_isPrefix`).
-/

namespace Strata

open Strata.Text

namespace Name

/-! ### What patterns stand for -/

/-- A segment of a pattern that stands for itself. -/
def Literal (segment : String) : Prop := segment ≠ "*" ∧ segment ≠ "**"

instance : DecidablePred Literal := fun _ => instDecidableAnd

/-- What a segment of a pattern stands for. -/
inductive StandsFor (p : String) : List String → Prop where
  /-- Any number of segments. -/
  | any (hp : p = "**") (part : List String) : StandsFor p part
  /-- Exactly one segment. -/
  | one (hp : p = "*") (segment : String) : StandsFor p [segment]
  /-- Itself. -/
  | self (hp : Literal p) : StandsFor p [p]

/-- Every segment but `**` stands for single segments. -/
lemma standsFor_iff_exists {p : String} (hmany : p ≠ "**") {part : List String} :
    StandsFor p part ↔ ∃ segment, part = [segment] ∧ (p = "*" ∨ p = segment) := by
  constructor
  · rintro (⟨hp, _⟩ | ⟨hp, segment⟩ | hp)
    · exact absurd hp hmany
    · exact ⟨segment, rfl, .inl hp⟩
    · exact ⟨p, rfl, .inr rfl⟩
  · rintro ⟨segment, rfl, hp⟩
    by_cases hone : p = "*"
    · exact .one hone segment
    · obtain rfl := hp.resolve_left hone
      exact .self ⟨hone, hmany⟩

lemma Literal.standsFor_iff {p : String} (hp : Literal p) {part : List String} :
    StandsFor p part ↔ part = [p] := by
  rw [standsFor_iff_exists hp.2]
  simp [hp.1]

/-! ### Cutting a name into parts -/

lemma anyTail_iff {α : Type} {p : List α → Bool} {xs : List α} :
    anyTail p xs = true ↔ ∃ part rest, xs = part ++ rest ∧ p rest = true := by
  induction xs with
  | nil => simp [anyTail]
  | cons x xs ih =>
    rw [anyTail, Bool.or_eq_true, ih]
    constructor
    · rintro (h | ⟨part, rest, rfl, h⟩)
      · exact ⟨[], x :: xs, rfl, h⟩
      · exact ⟨x :: part, rest, rfl, h⟩
    · rintro ⟨part, rest, heq, h⟩
      cases part with
      | nil =>
        rw [List.nil_append] at heq
        exact .inl (heq ▸ h)
      | cons y part => exact .inr ⟨part, rest, (List.cons.inj heq).2, h⟩

/-- A name fits a pattern if the first segment of the pattern stands for a part at its start and
what is left fits the rest of the pattern. -/
lemma fits_cons_iff {p : String} {pattern name : List String} :
    fits (p :: pattern) name = true ↔
      ∃ part rest, name = part ++ rest ∧ StandsFor p part ∧ fits pattern rest = true := by
  by_cases hmany : p = "**"
  · subst hmany
    simp only [fits, if_true, anyTail_iff, StandsFor.any rfl, true_and]
  · simp only [standsFor_iff_exists hmany]
    cases name with
    | nil => simp [fits, hmany]
    | cons segment rest =>
      simp only [fits, hmany, if_false, Bool.and_eq_true, Bool.or_eq_true, decide_eq_true_eq]
      constructor
      · rintro ⟨hp, hrest⟩
        exact ⟨[segment], rest, rfl, ⟨segment, rfl, hp⟩, hrest⟩
      · rintro ⟨_, more, heq, ⟨first, rfl, hp⟩, hmore⟩
        obtain ⟨rfl, rfl⟩ := List.cons.inj heq
        exact ⟨hp, hmore⟩

/-- A name fits a pattern if it can be cut into parts for which the segments of the pattern stand,
one after another. -/
lemma fits_iff {pattern name : List String} :
    fits pattern name = true ↔
      ∃ parts : List (List String),
        parts.flatten = name ∧ List.Forall₂ StandsFor pattern parts := by
  induction pattern generalizing name with
  | nil => simp [fits, @eq_comm _ []]
  | cons p pattern ih =>
    rw [fits_cons_iff]
    constructor
    · rintro ⟨part, rest, rfl, hpart, hrest⟩
      obtain ⟨parts, rfl, hparts⟩ := ih.1 hrest
      exact ⟨part :: parts, rfl, .cons hpart hparts⟩
    · rintro ⟨_, rfl, _ | ⟨hpart, hparts⟩⟩
      exact ⟨_, _, rfl, hpart, ih.2 ⟨_, rfl, hparts⟩⟩

/-- The start of a pattern takes the start of a name. -/
lemma fits_append_iff {pattern rest name : List String} :
    fits (pattern ++ rest) name = true ↔
      ∃ first more, name = first ++ more ∧ fits pattern first = true ∧ fits rest more = true := by
  induction pattern generalizing name with
  | nil => simp [fits]
  | cons p pattern ih =>
    simp only [List.cons_append, fits_cons_iff, ih]
    constructor
    · rintro ⟨part, _, rfl, hpart, first, more, rfl, hfirst, hmore⟩
      exact ⟨part ++ first, more, (List.append_assoc ..).symm, ⟨part, first, rfl, hpart, hfirst⟩,
        hmore⟩
    · rintro ⟨_, more, rfl, ⟨part, first, rfl, hpart, hfirst⟩, hmore⟩
      exact ⟨part, first ++ more, List.append_assoc .., hpart, first, more, rfl, hfirst, hmore⟩

/-- At the end of a pattern `**` takes whatever is left. -/
lemma fits_globstar (name : List String) : fits ["**"] name = true :=
  fits_cons_iff.2 ⟨name, [], (List.append_nil name).symm, .any rfl name, rfl⟩

section Literals

variable {pattern : List String} (hpattern : ∀ segment ∈ pattern, Literal segment)

include hpattern

lemma fits_literals_iff (name : List String) : fits pattern name = true ↔ name = pattern := by
  induction pattern generalizing name with
  | nil => simp [fits]
  | cons p pattern ih =>
    obtain ⟨hp, hrest⟩ := List.forall_mem_cons.1 hpattern
    rw [fits_cons_iff]
    simp only [hp.standsFor_iff, ih hrest]
    constructor
    · rintro ⟨_, _, rfl, rfl, rfl⟩
      rfl
    · rintro rfl
      exact ⟨[p], pattern, rfl, rfl, rfl⟩

lemma fits_globstar_iff (name : List String) :
    fits (pattern ++ ["**"]) name = true ↔ pattern <+: name := by
  rw [fits_append_iff]
  simp only [fits_literals_iff hpattern, fits_globstar, and_true]
  constructor
  · rintro ⟨_, more, rfl, rfl⟩
    exact ⟨more, rfl⟩
  · rintro ⟨more, rfl⟩
    exact ⟨pattern, more, rfl, rfl⟩

end Literals

/-! ### Separators -/

/-- The separators of segments. -/
def separators : List String := [".", "/"]

/-- A separator keeps the segments before it apart from those behind it, and is part of none. -/
lemma segments_append_separator {s : String} (hs : s ∈ separators) (a b : String) :
    segments (a ++ s ++ b) = segments a ++ segments b := by
  have hchar : ∃ c : Char, s = String.ofList [c] ∧ (c == '.' || c == '/') = true := by
    simp only [separators, List.mem_cons, List.not_mem_nil, or_false] at hs
    rcases hs with rfl | rfl
    · exact ⟨'.', rfl, rfl⟩
    · exact ⟨'/', rfl, rfl⟩
  obtain ⟨c, rfl, hc⟩ := hchar
  rw [segments, partsBy_append_sep hc, List.filter_append]
  rfl

/-- One change of the separators in a name. -/
inductive Respelled : String → String → Prop where
  /-- Another separator in the place of one. -/
  | swap {s t : String} (hs : s ∈ separators) (ht : t ∈ separators) (a b : String) :
      Respelled (a ++ s ++ b) (a ++ t ++ b)
  /-- A separator twice in the place of once. -/
  | double {s : String} (hs : s ∈ separators) (a b : String) :
      Respelled (a ++ s ++ b) (a ++ s ++ s ++ b)
  /-- A separator at the start. -/
  | front {s : String} (hs : s ∈ separators) (a : String) : Respelled a (s ++ a)
  /-- A separator at the end. -/
  | back {s : String} (hs : s ∈ separators) (a : String) : Respelled a (a ++ s)

lemma Respelled.segments_eq {a b : String} (h : Respelled a b) : segments a = segments b := by
  have hempty : segments "" = [] := rfl
  cases h with
  | swap hs ht a b => rw [segments_append_separator hs, segments_append_separator ht]
  | @double s hs a b =>
    have hfirst : segments (a ++ s) = segments a := by
      rw [← String.append_empty (s := a ++ s), segments_append_separator hs, hempty,
        List.append_nil]
    rw [segments_append_separator hs, segments_append_separator hs, hfirst]
  | @front s hs a =>
    rw [← String.empty_append (s := s), segments_append_separator hs, hempty, List.nil_append]
  | @back s hs a =>
    rw [← String.append_empty (s := a ++ s), segments_append_separator hs, hempty, List.append_nil]

lemma segments_eq_of_eqvGen {a b : String} (h : Relation.EqvGen Respelled a b) :
    segments a = segments b := by
  induction h with
  | rel a b h => exact h.segments_eq
  | refl a => rfl
  | symm a b _ ih => exact ih.symm
  | trans a b c _ _ ihab ihbc => exact ihab.trans ihbc

/-- A pattern in which no star occurs is made of segments that stand for themselves. -/
lemma literal_of_mem_segments {pattern segment : String} (hstar : '*' ∉ pattern.toList)
    (h : segment ∈ segments pattern) : Literal segment := by
  obtain ⟨piece, hpiece, rfl⟩ := List.mem_map.1 (List.mem_of_mem_filter h)
  have hfree : '*' ∉ (String.ofList piece).toList := by
    rw [String.toList_ofList]
    exact fun hmem => hstar (mem_of_mem_pieces hpiece hmem)
  constructor <;> intro heq <;> rw [heq] at hfree <;> exact hfree (by decide)

end Name

/-! ### Names below a pattern -/

namespace Profile

open Name

/-- A pattern without wildcards covers the names that start with its segments. -/
lemma covers_iff_isPrefix {pattern : String} (hstar : '*' ∉ pattern.toList) (name : String) :
    covers name pattern = true ↔ segments pattern <+: segments name := by
  have hliteral : ∀ segment ∈ segments pattern, Literal segment :=
    fun segment => literal_of_mem_segments hstar
  have hbelow : segments (pattern ++ "/**") = segments pattern ++ ["**"] := by
    have hmany : segments "**" = ["**"] := by decide +kernel
    have happend := segments_append_separator (s := "/") (by decide) pattern "**"
    rwa [String.append_assoc, hmany] at happend
  have hcontains : pattern.toList.contains '*' = false := by simpa using hstar
  rw [covers, hcontains, matchesPattern, matchesPattern, hbelow, Bool.not_false, Bool.true_and,
    Bool.or_eq_true, fits_literals_iff hliteral, fits_globstar_iff hliteral]
  -- the pattern itself is among the names that start with it
  exact or_iff_right_of_imp fun heq => heq ▸ List.prefix_rfl

/-- Behind patterns that do not cover a name, a pattern is the first that does if and only if it
does. -/
lemma firstCovering?_append_cons_iff {name pattern : String} {before : List String}
    (hbefore : firstCovering? name before = none) (after : List String) :
    firstCovering? name (before ++ pattern :: after) = some pattern ↔
      covers name pattern = true := by
  unfold firstCovering? at *
  rw [List.find?_append, hbefore, Option.none_or]
  constructor
  · exact List.find?_some
  · intro h
    rw [List.find?_cons_of_pos h]

end Profile

namespace Name

/-- A name fits a pattern if and only if its segments can be cut into parts for which the segments
of the pattern stand.  Other separators, more of them, or separators at the ends, in the name or in
the pattern, change nothing.  A pattern without wildcards is the first to cover a name, behind
patterns that do not, if and only if its segments are the first of the name. -/
theorem matchesPattern_iff_parts (name pattern : String) :
    (matchesPattern name pattern = true ↔
      ∃ parts : List (List String), parts.flatten = segments name ∧
        List.Forall₂ StandsFor (segments pattern) parts) ∧
    (∀ name' pattern' : String, Relation.EqvGen Respelled name name' →
      Relation.EqvGen Respelled pattern pattern' →
        matchesPattern name' pattern' = matchesPattern name pattern) ∧
    ('*' ∉ pattern.toList → ∀ before after : List String,
      Profile.firstCovering? name before = none →
        (Profile.firstCovering? name (before ++ pattern :: after) = some pattern ↔
          segments pattern <+: segments name)) := by
  refine ⟨fits_iff, fun name' pattern' hname hpattern => ?_, fun hstar before after hbefore => ?_⟩
  · rw [matchesPattern, matchesPattern, segments_eq_of_eqvGen hname,
      segments_eq_of_eqvGen hpattern]
  · rw [Profile.firstCovering?_append_cons_iff hbefore, Profile.covers_iff_isPrefix hstar]

/-- A name that a pattern with two wildcards fits in one spelling and in another, and that a pattern
without wildcards covers. -/
theorem matchesPattern_iff_parts_http :
    (∃ parts : List (List String), parts.flatten = segments "retrofit2.http.GET" ∧
      List.Forall₂ StandsFor (segments "**.http.*") parts) ∧
    Relation.EqvGen Respelled "retrofit2.http.GET" "retrofit2/http.GET" ∧
    matchesPattern "retrofit2/http.GET" "**.http.*" = true ∧
    '*' ∉ "retrofit2/http".toList ∧
    Profile.firstCovering? "retrofit2.http.GET" ["okhttp3.**"] = none ∧
    Profile.firstCovering? "retrofit2.http.GET" ["okhttp3.**", "retrofit2/http"] =
      some "retrofit2/http" := by
  obtain ⟨hparts, hspelled, -⟩ := matchesPattern_iff_parts "retrofit2.http.GET" "**.http.*"
  obtain ⟨-, -, hcovering⟩ := matchesPattern_iff_parts "retrofit2.http.GET" "retrofit2/http"
  have hfits : matchesPattern "retrofit2.http.GET" "**.http.*" = true := by decide +kernel
  have hslash : Relation.EqvGen Respelled "retrofit2.http.GET" "retrofit2/http.GET" :=
    .rel _ _ (.swap (s := ".") (t := "/") (by decide) (by decide) "retrofit2" "http.GET")
  have hstar : '*' ∉ "retrofit2/http".toList := by decide +kernel
  have hnone : Profile.firstCovering? "retrofit2.http.GET" ["okhttp3.**"] = none := by
    decide +kernel
  refine ⟨hparts.1 hfits, hslash, (hspelled _ _ hslash (.refl _)).trans hfits, hstar, hnone, ?_⟩
  exact (hcovering hstar ["okhttp3.**"] [] hnone).2 (by decide +kernel)

end Name

end Strata

import Mathlib.Data.List.Basic
import Mathlib.Data.Nat.Find
import Mathlib.Order.Basic
import Strata.Masking.Mask

/-!
# Matching braces

A closing brace matches an opening one if as many braces are closed as are opened between them, and
up to no place in between more are closed than opened.  That is counted from the opening brace
alone.  The depth is counted from the start of the text, and closing braces that are too many there
change nothing.  Both agree: behind an opening brace the depth is greater than at the brace, and it
falls back at the matching brace, whatever comes before them (`matching_iff_depthAt`).
-/

namespace Strata.Masking

variable {text : List Char} {m n o : ℕ}

/-- The brace depth at a place of a text, before the character there. -/
def depthAt (text : List Char) (n : ℕ) : ℕ := (text.take n).foldl braceStep 0

/-- What stands behind the place `o` of a text and before the place `n`. -/
def between (text : List Char) (o n : ℕ) : List Char := (text.take n).drop (o + 1)

/-- The number of braces that are opened behind the place `o` and before the place `n`. -/
def opened (text : List Char) (o n : ℕ) : ℕ := (between text o n).count '\x7b'

/-- The number of braces that are closed behind the place `o` and before the place `n`. -/
def closed (text : List Char) (o n : ℕ) : ℕ := (between text o n).count '\x7d'

/-- The closing brace at `c` matches an opening brace at `o`. -/
structure Matching (text : List Char) (o c : ℕ) : Prop where
  /-- It comes later. -/
  lt : o < c
  /-- It is a closing brace. -/
  brace : text[c]? = some '\x7d'
  /-- As many braces are opened as closed in between. -/
  balanced : opened text o c = closed text o c
  /-- Nowhere in between are more closed than opened. -/
  inner : ∀ n, o < n → n ≤ c → closed text o n ≤ opened text o n

/-- An opening brace at `o` is not closed before the place `n`. -/
def Lasts (text : List Char) (o n : ℕ) : Prop := ∀ c, Matching text o c → n ≤ c

/-- The place `n` lies behind an opening brace at `o` and not behind the brace that matches it. -/
def Encloses (text : List Char) (o n : ℕ) : Prop := o < n ∧ Lasts text o n

/-! ### One more character -/

section Step

variable {c : Char}

lemma depthAt_succ (h : text[n]? = some c) :
    depthAt text (n + 1) = braceStep (depthAt text n) c := by
  rw [depthAt, List.take_add_one, h, List.foldl_append]
  rfl

lemma depthAt_succ_of_none (h : text[n]? = none) : depthAt text (n + 1) = depthAt text n := by
  rw [depthAt, List.take_add_one, h, Option.toList_none, List.append_nil]
  rfl

lemma between_succ_self (text : List Char) (o : ℕ) : between text o (o + 1) = [] := by
  rw [between, List.drop_eq_nil_iff]
  exact List.length_take_le _ _

lemma between_succ (h : text[n]? = some c) (ho : o < n) :
    between text o (n + 1) = between text o n ++ [c] := by
  have hlength : n < text.length := (List.getElem?_eq_some_iff.1 h).1
  rw [between, List.take_add_one, h, List.drop_append_of_le_length]
  · rfl
  · rw [List.length_take]
    omega

lemma between_succ_of_none (h : text[n]? = none) : between text o (n + 1) = between text o n := by
  rw [between, List.take_add_one, h, Option.toList_none, List.append_nil]
  rfl

lemma opened_succ (h : text[n]? = some c) (ho : o < n) :
    opened text o (n + 1) = opened text o n + if c = '\x7b' then 1 else 0 := by
  rw [opened, between_succ h ho, List.count_append, List.count_singleton]
  simp [opened]

lemma closed_succ (h : text[n]? = some c) (ho : o < n) :
    closed text o (n + 1) = closed text o n + if c = '\x7d' then 1 else 0 := by
  rw [closed, between_succ h ho, List.count_append, List.count_singleton]
  simp [closed]

end Step

/-! ### Places behind a brace -/

lemma Lasts.mono (h : Lasts text o n) (hm : m ≤ n) : Lasts text o m :=
  fun c hc => hm.trans (h c hc)

lemma lasts_of_le_succ (hn : n ≤ o + 1) : Lasts text o n :=
  fun _ hc => hn.trans hc.lt

/-- A brace encloses one place more, unless that is where it is matched. -/
lemma encloses_succ_iff :
    Encloses text o (n + 1) ↔ o = n ∨ Encloses text o n ∧ ¬ Matching text o n := by
  constructor
  · rintro ⟨hlt, hlasts⟩
    rcases (Nat.lt_succ_iff.1 hlt).eq_or_lt with heq | hlt
    · exact .inl heq
    · exact .inr ⟨⟨hlt, hlasts.mono n.le_succ⟩, fun hn => absurd (hlasts n hn) (by omega)⟩
  · rintro (rfl | ⟨⟨hlt, hlasts⟩, hn⟩)
    · exact ⟨Nat.lt_succ_self o, lasts_of_le_succ le_rfl⟩
    · refine ⟨hlt.trans (Nat.lt_succ_self n), fun c hc => ?_⟩
      exact Nat.lt_of_le_of_ne (hlasts c hc) fun heq => hn (heq ▸ hc)

/-- As long as a brace is open, no more braces are closed behind it than opened. -/
lemma Lasts.closed_le_opened (h : Lasts text o n) (hom : o < m) (hmn : m ≤ n) :
    closed text o m ≤ opened text o m := by
  induction m using Nat.strong_induction_on with
  | _ m ih =>
    obtain ⟨k, rfl⟩ := Nat.exists_eq_add_one_of_ne_zero (Nat.ne_zero_of_lt hom)
    rcases (Nat.lt_succ_iff.1 hom).eq_or_lt with rfl | hok
    · rw [closed, between_succ_self]
      exact Nat.zero_le _
    · have hprevious := ih k (Nat.lt_succ_self k) hok (by omega)
      cases hc : text[k]? with
      | none =>
        rw [closed, opened, between_succ_of_none hc]
        exact hprevious
      | some c =>
        -- if all is balanced, a closing brace would be the matching one
        have hmatch : c = '\x7d' → closed text o k ≠ opened text o k := by
          rintro rfl heq
          have hk : Matching text o k :=
            ⟨hok, hc, heq.symm, fun i hi hik => ih i (by omega) hi (by omega)⟩
          have hle := h k hk
          omega
        rw [closed_succ hc hok, opened_succ hc hok]
        by_cases hclose : c = '\x7d'
        · have hne := hmatch hclose
          rw [if_pos hclose]
          omega
        · rw [if_neg hclose]
          omega

section Depth

variable (hbrace : text[o]? = some '\x7b')

include hbrace

/-- Inside a brace the depth and the braces counted from it differ by what was there before. -/
lemma Encloses.depthAt_add_closed (h : Encloses text o n) :
    depthAt text n + closed text o n = depthAt text o + 1 + opened text o n := by
  obtain ⟨hlt, hlasts⟩ := h
  induction n, Nat.succ_le_of_lt hlt using Nat.le_induction with
  | base =>
    rw [depthAt_succ hbrace, closed, opened, between_succ_self]
    rfl
  | succ n hon ih =>
    have hlasts' := hlasts.mono n.le_succ
    have hdepth := ih hon hlasts'
    have hle := hlasts'.closed_le_opened hon le_rfl
    cases hc : text[n]? with
    | none =>
      rw [depthAt_succ_of_none hc, closed, opened, between_succ_of_none hc]
      exact hdepth
    | some c =>
      rw [depthAt_succ hc, closed_succ hc hon, opened_succ hc hon, braceStep]
      simp only [beq_iff_eq]
      split_ifs with hopen hclose hclose
      · rw [hopen] at hclose
        exact absurd hclose (by decide)
      all_goals omega

/-- The brace that matches is the one at which the depth falls back. -/
lemma matching_iff_depthAt (h : Encloses text o n) (hclose : text[n]? = some '\x7d') :
    Matching text o n ↔ depthAt text n - 1 = depthAt text o := by
  have hdepth := h.depthAt_add_closed hbrace
  have hle := h.2.closed_le_opened h.1 le_rfl
  constructor
  · intro hmatch
    have hbalanced := hmatch.balanced
    omega
  · intro hback
    exact ⟨h.1, hclose, by omega, fun m hom hmn => h.2.closed_le_opened hom hmn⟩

end Depth

/-! ### The first brace at a depth -/

/-- From the place `n` on, the brace at `o` is the first that is opened at the depth of `n`. -/
structure OpensFrom (text : List Char) (n o : ℕ) : Prop where
  /-- It comes there or later. -/
  le : n ≤ o
  /-- It is an opening brace. -/
  brace : text[o]? = some '\x7b'
  /-- It stands at the depth of the place. -/
  depth : depthAt text o = depthAt text n
  /-- No brace before it is opened at that depth. -/
  first : ∀ i, n ≤ i → i < o → text[i]? = some '\x7b' → depthAt text i ≠ depthAt text n

lemma OpensFrom.unique {p : ℕ} (ho : OpensFrom text n o) (hp : OpensFrom text n p) : o = p := by
  rcases Nat.lt_trichotomy o p with hlt | heq | hlt
  · exact absurd ho.depth (hp.first o ho.le hlt ho.brace)
  · exact heq
  · exact absurd hp.depth (ho.first p hp.le hlt hp.brace)

/-- If the first such brace has not come before the place `m`, then it stands there if a brace is
opened there at the right depth. -/
lemma opensFrom_iff (hnm : n ≤ m) (hnone : ∀ o, OpensFrom text n o → m ≤ o) :
    OpensFrom text n m ↔ text[m]? = some '\x7b' ∧ depthAt text m = depthAt text n := by
  refine ⟨fun h => ⟨h.brace, h.depth⟩, fun ⟨hbrace, hdepth⟩ => ⟨hnm, hbrace, hdepth, ?_⟩⟩
  intro i hni him hi heq
  -- otherwise the first of them all comes before
  have hexists : ∃ i, n ≤ i ∧ text[i]? = some '\x7b' ∧ depthAt text i = depthAt text n :=
    ⟨i, hni, hi, heq⟩
  have hleast := Nat.find_spec hexists
  have hopens : OpensFrom text n (Nat.find hexists) :=
    ⟨hleast.1, hleast.2.1, hleast.2.2, fun j hnj hj hbrace' hdepth' =>
      Nat.find_min hexists hj ⟨hnj, hbrace', hdepth'⟩⟩
  have hle := hnone _ hopens
  have hmin := Nat.find_min' hexists ⟨hni, hi, heq⟩
  omega

end Strata.Masking

import Mathlib.Data.List.Lex
import Mathlib.Data.List.Nodup
import Mathlib.Data.String.Basic
import Strata.Proofs.FileName
import Strata.Walk.Sources

/-!
# Ascending lists

If the test decides a strict total order, sorting puts a list in ascending order and keeps every
element as often as it is there.  The ascending list of some elements has each of them once, so it
depends only on which elements there are.  The two orders in use, that of strings and that of paths,
are such orders.
-/

namespace Strata.Ascending

variable {α : Type} {before : α → α → Bool}

/-- The test decides a strict total order. -/
structure StrictTotal (before : α → α → Bool) : Prop where
  /-- Nothing stands before itself. -/
  irrefl : ∀ a, before a a = false
  /-- What stands before another element stands before all that follow it. -/
  trans : ∀ a b c, before a b = true → before b c = true → before a c = true
  /-- Of two different elements one stands before the other. -/
  total : ∀ a b, before a b = false → before b a = false → a = b

namespace StrictTotal

lemma asymm (h : StrictTotal before) {a b : α} (hab : before a b = true) : before b a = false := by
  rw [Bool.eq_false_iff]
  intro hba
  have haa := h.trans a b a hab hba
  rw [h.irrefl] at haa
  cases haa

/-- An order along an injective map into a linear order. -/
lemma of_lt {β : Type} [LinearOrder β] {f : α → β} (hf : Function.Injective f)
    (h : ∀ a b, before a b = true ↔ f a < f b) : StrictTotal before where
  irrefl a := by
    rw [Bool.eq_false_iff, ne_eq, h]
    exact lt_irrefl (f a)
  trans a b c := by
    rw [h, h, h]
    exact lt_trans
  total a b := by
    rw [Bool.eq_false_iff, Bool.eq_false_iff, ne_eq, ne_eq, h, h, not_lt, not_lt]
    exact fun hba hab => hf (le_antisymm hab hba)

end StrictTotal

/-! ### Sorting -/

lemma mem_insert (h : StrictTotal before) {a x : α} {items : List α} :
    x ∈ insert before a items ↔ x = a ∨ x ∈ items := by
  induction items with
  | nil => simp [insert]
  | cons b rest ih =>
    unfold insert
    split_ifs with hab hba
    · exact List.mem_cons
    · rw [List.mem_cons, ih, List.mem_cons]
      exact or_left_comm
    · -- neither stands before the other, so the element is there already
      have heq : a = b := h.total a b (by simpa using hab) (by simpa using hba)
      rw [heq, List.mem_cons]
      exact ⟨Or.inr, fun hx => hx.elim Or.inl id⟩

lemma pairwise_insert (h : StrictTotal before) {a : α} {items : List α}
    (hitems : items.Pairwise fun x y => before x y = true) :
    (insert before a items).Pairwise fun x y => before x y = true := by
  induction items with
  | nil => exact List.pairwise_singleton _ a
  | cons b rest ih =>
    obtain ⟨hb, hrest⟩ := List.pairwise_cons.1 hitems
    unfold insert
    split_ifs with hab hba
    · refine List.pairwise_cons.2 ⟨?_, hitems⟩
      intro x hx
      rcases List.mem_cons.1 hx with rfl | hx
      · exact hab
      · exact h.trans a b x hab (hb x hx)
    · refine List.pairwise_cons.2 ⟨?_, ih hrest⟩
      intro x hx
      rcases (mem_insert h).1 hx with rfl | hx
      · exact hba
      · exact hb x hx
    · exact hitems

lemma mem_foldl_insert (h : StrictTotal before) {x : α} (items sorted : List α) :
    x ∈ items.foldl (fun sorted a => insert before a sorted) sorted ↔
      x ∈ items ∨ x ∈ sorted := by
  induction items generalizing sorted with
  | nil => simp
  | cons a items ih =>
    rw [List.foldl_cons, ih, mem_insert h, List.mem_cons, or_left_comm, or_assoc]

lemma mem_ofList (h : StrictTotal before) {x : α} {items : List α} :
    x ∈ ofList before items ↔ x ∈ items := by
  rw [ofList, mem_foldl_insert h]
  exact or_iff_left List.not_mem_nil

lemma pairwise_ofList (h : StrictTotal before) (items : List α) :
    (ofList before items).Pairwise fun x y => before x y = true := by
  suffices hgoal : ∀ sorted : List α, (sorted.Pairwise fun x y => before x y = true) →
      (items.foldl (fun sorted a => insert before a sorted) sorted).Pairwise
        fun x y => before x y = true from hgoal [] List.Pairwise.nil
  induction items with
  | nil => exact fun _ hsorted => hsorted
  | cons a items ih => exact fun sorted hsorted => ih _ (pairwise_insert h hsorted)

lemma nodup_ofList (h : StrictTotal before) (items : List α) : (ofList before items).Nodup := by
  refine (pairwise_ofList h items).imp ?_
  rintro x y hxy rfl
  rw [h.irrefl] at hxy
  exact absurd hxy (by simp)

/-- Lists with the same elements have the same ascending list. -/
lemma ofList_congr (h : StrictTotal before) {as bs : List α} (hmem : ∀ x, x ∈ as ↔ x ∈ bs) :
    ofList before as = ofList before bs := by
  have hperm : (ofList before as).Perm (ofList before bs) := by
    rw [List.perm_ext_iff_of_nodup (nodup_ofList h as) (nodup_ofList h bs)]
    intro x
    rw [mem_ofList h, mem_ofList h, hmem]
  -- and two ascending lists with the same elements are equal
  refine hperm.eq_of_pairwise ?_ (pairwise_ofList h as) (pairwise_ofList h bs)
  intro x y _ _ hxy hyx
  rw [h.asymm hxy] at hyx
  cases hyx

/-! ### The orders in use -/

lemma strictTotal_stringBefore : StrictTotal stringBefore :=
  StrictTotal.of_lt Function.injective_id fun _ _ => decide_eq_true_iff

lemma mem_strings {x : String} {items : List String} : x ∈ strings items ↔ x ∈ items :=
  mem_ofList strictTotal_stringBefore

lemma strings_congr {as bs : List String} (hmem : ∀ x, x ∈ as ↔ x ∈ bs) :
    strings as = strings bs :=
  ofList_congr strictTotal_stringBefore hmem

instance byteOrder : LinearOrder UInt8 where
  le_refl := UInt8.le_refl
  le_trans _ _ _ := UInt8.le_trans
  le_antisymm _ _ := UInt8.le_antisymm
  le_total := UInt8.le_total
  lt_iff_le_not_ge a b := by
    rw [UInt8.lt_iff_toNat_lt, UInt8.le_iff_toNat_le, UInt8.le_iff_toNat_le]
    omega
  toDecidableLE := inferInstance

end Strata.Ascending

import Mathlib.Data.List.Find
import Mathlib.Data.List.Induction
import Mathlib.Data.List.Pairwise
import Mathlib.Data.Prod.Lex
import Strata.Layer.Assignment

/-!
# The layer of a path

Among the layers that a path fits, the one with the greatest rank takes it: rank is precedence
first, then the specificity of the glob, and of several layers of greatest rank the first declared
one counts.  The single pass over the layers, which replaces the best layer so far only by one that
ranks above it, finds exactly this layer (`best?_eq_find?`).

So layers that the path does not fit have no say, and neither has the order of layers of different
ranks.
-/

namespace Strata.Layer

/-- The rank of a layer: its precedence, and between equal precedences the specificity. -/
def rank (layer : Layer) : ℤ ×ₗ ℕ :=
  toLex (layer.effectivePrecedence, Glob.specificity layer.pattern)

lemma outranks_iff {a b : Layer} : a.outranks b = true ↔ b.rank < a.rank := by
  rw [outranks, rank, rank, Prod.Lex.toLex_lt_toLex, Bool.or_eq_true, Bool.and_eq_true,
    decide_eq_true_eq, decide_eq_true_eq, beq_iff_eq, eq_comm]

/-- No layer of a list ranks above this one. -/
def Tops (layers : List Layer) (layer : Layer) : Prop := ∀ other ∈ layers, other.rank ≤ layer.rank

instance (layers : List Layer) : DecidablePred (Tops layers) := fun layer =>
  inferInstanceAs (Decidable (∀ other ∈ layers, other.rank ≤ layer.rank))

/-! ### The single pass -/

lemma tops_concat_iff {passed : List Layer} {next layer : Layer} :
    Tops (passed ++ [next]) layer ↔ Tops passed layer ∧ next.rank ≤ layer.rank := by
  simp [Tops, or_imp, forall_and]

lemma best?_concat (passed : List Layer) (next : Layer) :
    best? (passed ++ [next]) = better (best? passed) next := by
  rw [best?, List.foldl_append, List.foldl_cons, List.foldl_nil, ← best?]

lemma best?_eq_none_iff {layers : List Layer} : best? layers = none ↔ layers = [] := by
  induction layers using List.reverseRecOn with
  | nil => exact iff_of_true rfl rfl
  | append_singleton passed next _ =>
    refine iff_of_false ?_ (by simp)
    rw [best?_concat]
    unfold better
    split
    · simp
    · split <;> simp

/-- The pass ends with the first layer that no other one ranks above.  The induction is on the
layers that have been passed. -/
lemma best?_eq_find? (layers : List Layer) :
    best? layers = layers.find? fun layer => decide (Tops layers layer) := by
  induction layers using List.reverseRecOn with
  | nil => rfl
  | append_singleton passed next ih =>
    rw [best?_concat, List.find?_append]
    cases hbest : best? passed with
    | none =>
      obtain rfl := best?_eq_none_iff.1 hbest
      simp [better, Tops]
    | some best =>
      rw [hbest] at ih
      have htops : Tops passed best := by simpa using List.find?_some ih.symm
      have hmem : best ∈ passed := List.mem_of_find?_eq_some ih.symm
      rw [better]
      split_ifs with houtranks <;> rw [outranks_iff] at houtranks
      · -- the next layer ranks above all that have been passed, and so it is the only one
        have hpassed :
            (passed.find? fun layer => decide (Tops (passed ++ [next]) layer)) = none := by
          rw [List.find?_eq_none]
          intro layer hlayer
          rw [decide_eq_true_eq, tops_concat_iff]
          exact fun h => absurd h.2 (not_le.2 ((htops layer hlayer).trans_lt houtranks))
        have hnext : Tops (passed ++ [next]) next :=
          tops_concat_iff.2 ⟨fun other hother => (htops other hother).trans houtranks.le, le_rfl⟩
        rw [hpassed, Option.none_or, List.find?_cons_of_pos (by simpa using hnext)]
      · -- it changes nothing for those that have been passed
        have hsame : ∀ layer ∈ passed,
            decide (Tops (passed ++ [next]) layer) = decide (Tops passed layer) := by
          intro layer _
          rw [decide_eq_decide, tops_concat_iff]
          exact and_iff_left_of_imp fun h => (not_lt.1 houtranks).trans (h best hmem)
        rw [List.find?_congr hsame, ← ih, Option.some_or]

/-! ### The winner -/

/-- The path fits a layer, and it fits no layer of the list that ranks above this one. -/
def Leads (path : String) (layers : List Layer) (layer : Layer) : Prop :=
  claims path layer = true ∧ ∀ other ∈ layers, claims path other = true → other.rank ≤ layer.rank

instance (path : String) (layers : List Layer) : DecidablePred (Leads path layers) := fun layer =>
  inferInstanceAs (Decidable (claims path layer = true ∧
    ∀ other ∈ layers, claims path other = true → other.rank ≤ layer.rank))

lemma leads_iff {path : String} {layers : List Layer} {layer : Layer} :
    Leads path layers layer ↔
      claims path layer = true ∧ Tops (layers.filter (claims path)) layer := by
  simp only [Leads, Tops, List.mem_filter, and_imp]

lemma assign_eq_find? (layers : List Layer) (path : String) :
    assign layers path =
      (layers.find? fun layer => decide (Leads path layers layer)).map name := by
  rw [assign, best?_eq_find?, List.find?_filter]
  simp only [leads_iff, Bool.decide_and, Bool.decide_eq_true]

lemma assign_eq_none_iff {layers : List Layer} {path : String} :
    assign layers path = none ↔ ∀ layer ∈ layers, claims path layer = false := by
  rw [assign, Option.map_eq_none_iff, best?_eq_none_iff, List.filter_eq_nil_iff]
  simp only [Bool.not_eq_true]

/-! ### Changes that do not matter -/

variable {before after : List Layer}

lemma assign_insert {extra : List Layer} {path : String}
    (hextra : ∀ layer ∈ extra, claims path layer = false) :
    assign (before ++ extra ++ after) path = assign (before ++ after) path := by
  have hnone : extra.filter (claims path) = [] := by simpa using hextra
  rw [assign, List.filter_append, List.filter_append, hnone, List.append_nil, ← List.filter_append,
    assign]

/-- If at most one element passes a test, the order in which they are tested does not matter. -/
lemma find?_eq_of_perm {α : Type} {p : α → Bool} {xs ys : List α} (hperm : xs.Perm ys)
    (honly : ∀ x ∈ xs, ∀ y ∈ xs, p x = true → p y = true → x = y) :
    xs.find? p = ys.find? p := by
  cases hfound : ys.find? p with
  | none =>
    rw [List.find?_eq_none] at hfound ⊢
    exact fun x hx => hfound x (hperm.mem_iff.1 hx)
  | some y =>
    have hy : y ∈ xs := hperm.mem_iff.2 (List.mem_of_find?_eq_some hfound)
    have hpy : p y = true := List.find?_some hfound
    obtain ⟨x, hx⟩ := Option.isSome_iff_exists.1 (List.find?_isSome.2 ⟨y, hy, hpy⟩)
    rw [hx, honly x (List.mem_of_find?_eq_some hx) y hy (List.find?_some hx) hpy]

lemma best?_reorder {group reordered : List Layer} (hperm : group.Perm reordered)
    (hties : group.Pairwise fun a b => a.rank ≠ b.rank) :
    best? (before ++ group ++ after) = best? (before ++ reordered ++ after) := by
  let top (layer : Layer) : Bool := decide (Tops (before ++ group ++ after) layer)
  have htop : best? (before ++ reordered ++ after) = (before ++ reordered ++ after).find? top := by
    rw [best?_eq_find?]
    refine List.find?_congr fun layer _ => ?_
    rw [decide_eq_decide]
    simp only [Tops, ((hperm.append_left before).append_right after).mem_iff]
  -- two layers of the group that no other one ranks above have the same rank
  have honly : ∀ a ∈ group, ∀ b ∈ group, top a = true → top b = true → a = b := by
    intro a ha b hb hatop hbtop
    have : Std.Symm fun a b : Layer => a.rank ≠ b.rank := ⟨fun _ _ h => h.symm⟩
    by_contra hne
    refine hties.forall ha hb hne (le_antisymm ?_ ?_)
    · exact of_decide_eq_true hbtop a (by simp [ha])
    · exact of_decide_eq_true hatop b (by simp [hb])
  rw [htop, best?_eq_find?, List.find?_append, List.find?_append, List.find?_append,
    List.find?_append, find?_eq_of_perm hperm honly]

lemma assign_reorder {group reordered : List Layer} {path : String}
    (hperm : group.Perm reordered)
    (hties : (group.filter (claims path)).Pairwise fun a b => a.rank ≠ b.rank) :
    assign (before ++ group ++ after) path = assign (before ++ reordered ++ after) path := by
  simp only [assign, List.filter_append]
  rw [best?_reorder (hperm.filter _) hties]

/-- The layer of a path is the documented winner: there is none if and only if the path fits no
layer, and otherwise it is the first declared one among the layers of greatest rank that the path
fits.  So it does not change when layers that the path does not fit are put in or taken out, and
neither when layers change places among which no two that the path fits have the same rank. -/
theorem assign_winner (layers : List Layer) (path : String) :
    (assign layers path = none ↔ ∀ layer ∈ layers, claims path layer = false) ∧
    assign layers path =
      (layers.find? fun layer => decide (Leads path layers layer)).map name ∧
    (∀ before extra after, layers = before ++ extra ++ after →
      (∀ layer ∈ extra, claims path layer = false) →
        assign layers path = assign (before ++ after) path) ∧
    ∀ before group reordered after, layers = before ++ group ++ after → group.Perm reordered →
      ((group.filter (claims path)).Pairwise fun a b => a.rank ≠ b.rank) →
        assign layers path = assign (before ++ reordered ++ after) path := by
  refine ⟨assign_eq_none_iff, assign_eq_find? layers path, ?_, ?_⟩
  · rintro before extra after rfl hextra
    exact assign_insert hextra
  · rintro before group reordered after rfl hperm hties
    exact assign_reorder hperm hties

/-- Layers of which several take views: two of them have the same rank. -/
def shopLayers : List Layer :=
  [{ name := "source", pattern := "src/**" },
    { name := "checkout", pattern := "src/features/checkout/**" },
    { name := "views", pattern := "**/views/**", precedence := some 10 },
    { name := "pages", pattern := "**/views/**", precedence := some 10 },
    { name := "library", pattern := "lib/**", precedence := some 20 }]

theorem assign_winner_shopLayers :
    let path := "src/features/checkout/views/Cart.tsx"
    assign shopLayers path = some "views" ∧
      (∀ layer ∈ shopLayers.drop 4, claims path layer = false) ∧
      assign shopLayers path = assign (shopLayers.take 4) path ∧
      (((shopLayers.take 3).filter (claims path)).Pairwise fun a b => a.rank ≠ b.rank) ∧
      assign shopLayers path = assign ((shopLayers.take 3).reverse ++ shopLayers.drop 3) path := by
  intro path
  obtain ⟨-, hwinner, hinsert, hreorder⟩ := assign_winner shopLayers path
  have hextra : ∀ layer ∈ shopLayers.drop 4, claims path layer = false := by decide +kernel
  have hties : ((shopLayers.take 3).filter (claims path)).Pairwise fun a b => a.rank ≠ b.rank := by
    decide +kernel
  refine ⟨?_, hextra, ?_, hties, ?_⟩
  · rw [hwinner]
    decide +kernel
  · exact hinsert (shopLayers.take 4) (shopLayers.drop 4) [] rfl hextra
  · exact hreorder [] (shopLayers.take 3) _ (shopLayers.drop 3) rfl (List.reverse_perm _).symm hties

end Strata.Layer

import Mathlib.Data.List.Chain
import Mathlib.Data.List.Rotate
import Mathlib.Logic.Relation
import Mathlib.Order.WellFounded

/-!
# Closed walks of a relation

A closed walk is given by the list of its nodes: each node is related to the next one, and the last
node to the first.  Its edges are these pairs.  Turning a closed walk does not change its edges, so
it stays a closed walk.

A relation is acyclic if no node reaches itself.  This file shows that an acyclic relation has no
closed walk (`Acyclic.not_isClosedWalk`), that a well-founded relation is acyclic
(`acyclic_of_wellFounded`), and that all nodes of a closed walk lie in one strongly connected
component (`IsClosedWalk.reaches`).
-/

namespace Strata.Cycle

open Relation

variable {α : Type} {E R : α → α → Prop}

/-- The edges of a closed walk: each node with the next one, and the last with the first. -/
def edges (nodes : List α) : List (α × α) :=
  nodes.zip (nodes.rotate 1)

/-- The list of nodes of a closed walk along a relation.  Nodes may repeat. -/
structure IsClosedWalk (E : α → α → Prop) (nodes : List α) : Prop where
  /-- There is a node. -/
  ne_nil : nodes ≠ []
  /-- Neighbours are related, and so are the last node and the first. -/
  related : ∀ edge ∈ edges nodes, E edge.1 edge.2

/-- No node reaches itself. -/
def Acyclic (E : α → α → Prop) : Prop := ∀ a, ¬ TransGen E a a

/-- The strongly connected component of a node: what it reaches and is reached from. -/
def component (E : α → α → Prop) (a : α) : Set α :=
  {b | ReflTransGen E a b ∧ ReflTransGen E b a}

lemma edges_cons (a : α) (nodes : List α) :
    edges (a :: nodes) = (a :: nodes).zip (nodes ++ [a]) := by
  rw [edges, List.rotate_cons_succ, List.rotate_zero]

example : edges [1, 2, 3] = [(1, 2), (2, 3), (3, 1)] := rfl

/-! ### Turning -/

lemma edges_rotate (nodes : List α) (n : ℕ) : edges (nodes.rotate n) = (edges nodes).rotate n := by
  have hlength : nodes.length = (nodes.rotate 1).length := by simp
  unfold edges List.zip
  rw [List.zipWith_rotate_distrib _ _ _ _ hlength, List.rotate_rotate, List.rotate_rotate,
    Nat.add_comm]

lemma mem_edges_of_isRotated {nodes turned : List α} (h : nodes ~r turned) {edge : α × α} :
    edge ∈ edges turned ↔ edge ∈ edges nodes := by
  obtain ⟨n, rfl⟩ := h
  rw [edges_rotate, List.mem_rotate]

lemma IsClosedWalk.of_isRotated {nodes turned : List α} (h : IsClosedWalk E nodes)
    (hturned : nodes ~r turned) : IsClosedWalk E turned := by
  refine ⟨?_, fun edge hedge => h.related edge ((mem_edges_of_isRotated hturned).1 hedge)⟩
  rintro rfl
  exact h.ne_nil (List.isRotated_nil_iff.1 hturned)

/-! ### Walking along -/

/-- The pairs of neighbours in `a, nodes, b` are related exactly if these nodes form a chain. -/
lemma forall_mem_zip_iff_isChain (a b : α) (nodes : List α) :
    (∀ edge ∈ (a :: nodes).zip (nodes ++ [b]), E edge.1 edge.2) ↔
      (a :: (nodes ++ [b])).IsChain E := by
  induction nodes generalizing a with
  | nil => simp
  | cons c nodes ih =>
    simp only [List.cons_append, List.zip_cons_cons, List.forall_mem_cons, List.isChain_cons_cons]
    rw [← ih c]

lemma isClosedWalk_cons_iff (a : α) (nodes : List α) :
    IsClosedWalk E (a :: nodes) ↔ (a :: (nodes ++ [a])).IsChain E := by
  rw [← forall_mem_zip_iff_isChain, ← edges_cons]
  exact ⟨fun h => h.related, fun h => ⟨List.cons_ne_nil _ _, h⟩⟩

/-- The first node of a chain reaches every node of it. -/
lemma reflTransGen_of_isChain {a b : α} {nodes : List α} (h : (a :: nodes).IsChain E)
    (hb : b ∈ a :: nodes) : ReflTransGen E a b := by
  induction nodes generalizing a with
  | nil =>
    rw [List.mem_singleton.1 hb]
  | cons c nodes ih =>
    obtain ⟨hac, hrest⟩ := List.isChain_cons_cons.1 h
    rcases List.mem_cons.1 hb with rfl | hb
    · exact ReflTransGen.refl
    · exact ReflTransGen.head hac (ih hrest hb)

/-- Every node of a chain but the last reaches the last one in at least one step. -/
lemma transGen_of_isChain_append {a b : α} {nodes : List α} (h : (nodes ++ [b]).IsChain E)
    (ha : a ∈ nodes) : TransGen E a b := by
  induction nodes generalizing a with
  | nil => exact absurd ha List.not_mem_nil
  | cons c nodes ih =>
    cases nodes with
    | nil =>
      rw [List.mem_singleton.1 ha]
      exact TransGen.single (by simpa using h)
    | cons d nodes =>
      obtain ⟨hcd, hrest⟩ := List.isChain_cons_cons.1 h
      rcases List.mem_cons.1 ha with rfl | ha
      · exact TransGen.head hcd (ih hrest List.mem_cons_self)
      · exact ih hrest ha

/-- A closed walk has a node that reaches itself: the first one does. -/
lemma IsClosedWalk.exists_transGen {nodes : List α} (h : IsClosedWalk E nodes) :
    ∃ a ∈ nodes, TransGen E a a := by
  cases nodes with
  | nil => exact absurd rfl h.ne_nil
  | cons a nodes =>
    have hchain := (isClosedWalk_cons_iff a nodes).1 h
    rw [← List.cons_append] at hchain
    exact ⟨a, List.mem_cons_self, transGen_of_isChain_append hchain List.mem_cons_self⟩

/-- Each node of a closed walk reaches each other one: it goes on to the first node, and from there
to the other. -/
lemma IsClosedWalk.reaches {nodes : List α} (h : IsClosedWalk E nodes) {a b : α}
    (ha : a ∈ nodes) (hb : b ∈ nodes) : ReflTransGen E a b := by
  cases nodes with
  | nil => exact absurd rfl h.ne_nil
  | cons c nodes =>
    have hchain := (isClosedWalk_cons_iff c nodes).1 h
    have hb' : b ∈ c :: (nodes ++ [c]) := by
      rw [← List.cons_append]
      exact List.mem_append_left _ hb
    have hcb : ReflTransGen E c b := reflTransGen_of_isChain hchain hb'
    rw [← List.cons_append] at hchain
    exact (transGen_of_isChain_append hchain ha).to_reflTransGen.trans hcb

/-- The last of `a, nodes` is paired with the `b` that follows. -/
lemma getLast?_mem_zip {a b last : α} {nodes : List α} (h : last ∈ (a :: nodes).getLast?) :
    (last, b) ∈ (a :: nodes).zip (nodes ++ [b]) := by
  induction nodes generalizing a with
  | nil =>
    rw [List.getLast?_singleton, Option.mem_some_iff] at h
    rw [h]
    exact List.mem_singleton_self _
  | cons c nodes ih =>
    rw [List.getLast?_cons_cons] at h
    exact List.mem_cons_of_mem _ (ih h)

lemma closing_mem_edges {a last : α} {nodes : List α} (h : last ∈ (a :: nodes).getLast?) :
    (last, a) ∈ edges (a :: nodes) := by
  rw [edges_cons]
  exact getLast?_mem_zip h

lemma fst_mem_of_mem_edges {nodes : List α} {edge : α × α} (h : edge ∈ edges nodes) :
    edge.1 ∈ nodes :=
  (List.of_mem_zip h).1

/-! ### Acyclic relations -/

/-- A relation that is well founded against its direction is acyclic. -/
lemma acyclic_of_wellFounded (h : WellFounded (Function.swap E)) : Acyclic E := by
  intro a ha
  have hwf : WellFounded (TransGen (Function.swap E)) := h.transGen
  exact hwf.irrefl.irrefl a (transGen_swap.2 ha)

lemma Acyclic.not_isClosedWalk (h : Acyclic E) (nodes : List α) : ¬ IsClosedWalk E nodes := by
  intro hwalk
  obtain ⟨a, -, ha⟩ := hwalk.exists_transGen
  exact h a ha

/-- Every closed walk has an edge that is no edge of an acyclic relation. -/
lemma IsClosedWalk.exists_edge_not {nodes : List α} (h : IsClosedWalk E nodes) (hR : Acyclic R) :
    ∃ edge ∈ edges nodes, ¬ R edge.1 edge.2 := by
  by_contra hnone
  push Not at hnone
  exact hR.not_isClosedWalk nodes ⟨h.ne_nil, hnone⟩

/-- A walk that can return to its start stays in the component of its start. -/
lemma transGen_within_component {a b : α} (h : TransGen E a b) (hback : ReflTransGen E b a) :
    TransGen (fun x y => E x y ∧ x ∈ component E a) a b := by
  induction h with
  | single hab => exact TransGen.single ⟨hab, ReflTransGen.refl, ReflTransGen.refl⟩
  | @tail b c hab hbc ih =>
    have hb : ReflTransGen E b a := ReflTransGen.head hbc hback
    exact TransGen.tail (ih hb) ⟨hbc, hab.to_reflTransGen, hb⟩

/-- A node of a component with a second node reaches itself inside the component. -/
lemma transGen_of_nontrivial_component {a : α} (h : (component E a).Nontrivial) :
    TransGen (fun x y => E x y ∧ x ∈ component E a) a a := by
  obtain ⟨b, ⟨hab, hba⟩, hne⟩ := h.exists_ne a
  have haa : TransGen E a a := by
    rcases reflTransGen_iff_eq_or_transGen.1 hab with rfl | hab
    · exact absurd rfl hne
    · exact hab.trans_left hba
  exact transGen_within_component haa ReflTransGen.refl

/-- A component with two nodes has an edge that is no edge of an acyclic relation. -/
lemma exists_edge_not_of_nontrivial_component {a : α} (h : (component E a).Nontrivial)
    (hR : Acyclic R) : ∃ x y, x ∈ component E a ∧ E x y ∧ ¬ R x y := by
  by_contra hnone
  push Not at hnone
  have hsub : ∀ x y, E x y ∧ x ∈ component E a → R x y := fun x y hxy => hnone x y hxy.2 hxy.1
  exact hR a (TransGen.mono hsub _ _ (transGen_of_nontrivial_component h))

end Strata.Cycle

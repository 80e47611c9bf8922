import Mathlib.Data.String.Basic
import Strata.Graph.Cycle
import Strata.Proofs.Cycle.ClosedWalk

/-!
# Canonical cycles

A cycle without repeated nodes has exactly one turn that starts at its smallest node.  So two
cycles are turns of one another if and only if their canonical forms are equal, and a list of
canonical cycles without repetition holds each cycle once.

The last part is about the stretch of a path that an edge back to one of its nodes closes: it is a
closed walk, and the edge is one of its edges.
-/

namespace Strata.Cycle

/-- The first node of the cycle is the smallest of its nodes. -/
def StartsSmallest (cycle : List String) : Prop :=
  ∀ first ∈ cycle.head?, ∀ node ∈ cycle, first ≤ node

/-! ### The smallest node -/

lemma smallest_cons (first node : String) (others : List String) :
    smallest first (node :: others) = smallest (if node < first then node else first) others :=
  rfl

lemma smallest_mem (first : String) (others : List String) :
    smallest first others ∈ first :: others := by
  induction others generalizing first with
  | nil => exact List.mem_singleton_self first
  | cons node others ih =>
    rw [smallest_cons]
    split
    · exact List.mem_cons_of_mem _ (ih node)
    · rcases List.mem_cons.1 (ih first) with heq | hmem
      · rw [heq]
        exact List.mem_cons_self
      · exact List.mem_cons_of_mem _ (List.mem_cons_of_mem _ hmem)

lemma smallest_le_first (first : String) (others : List String) :
    smallest first others ≤ first := by
  induction others generalizing first with
  | nil => exact le_refl first
  | cons node others ih =>
    rw [smallest_cons]
    refine le_trans (ih _) ?_
    split
    · exact le_of_lt ‹_›
    · exact le_refl first

lemma smallest_le {first node : String} {others : List String} (h : node ∈ first :: others) :
    smallest first others ≤ node := by
  induction others generalizing first with
  | nil => rw [List.mem_singleton.1 h]; exact le_refl first
  | cons other others ih =>
    rw [smallest_cons]
    have hleast := smallest_le_first (if other < first then other else first) others
    rcases List.mem_cons.1 h with rfl | h
    · refine le_trans hleast ?_
      split
      · exact le_of_lt ‹_›
      · exact le_refl node
    · rcases List.mem_cons.1 h with rfl | h
      · refine le_trans hleast ?_
        split
        · exact le_refl node
        · exact not_lt.1 ‹_›
      · exact ih (List.mem_cons_of_mem _ h)

/-! ### Cutting a list at the first occurrence of an element -/

lemma forall_bne_of_not_mem {node : String} {before : List String} (h : node ∉ before) :
    ∀ a ∈ before, (a != node) = true := by
  intro a ha
  rw [bne_iff_ne]
  rintro rfl
  exact h ha

lemma takeWhile_ne {node : String} {before after : List String} (h : node ∉ before) :
    (before ++ node :: after).takeWhile (· != node) = before := by
  rw [List.takeWhile_append_of_pos (forall_bne_of_not_mem h),
    List.takeWhile_cons_of_neg (by simp), List.append_nil]

lemma dropWhile_ne {node : String} {before after : List String} (h : node ∉ before) :
    (before ++ node :: after).dropWhile (· != node) = node :: after := by
  rw [List.dropWhile_append_of_pos (forall_bne_of_not_mem h),
    List.dropWhile_cons_of_neg (by simp)]

/-! ### The canonical turn of a cycle -/

/-- A cycle cut before its smallest node, and the two parts exchanged. -/
lemma exists_canonical_eq {cycle : List String} (h : cycle ≠ []) :
    ∃ before start after, cycle = before ++ start :: after ∧
      canonical cycle = start :: after ++ before ∧ ∀ node ∈ cycle, start ≤ node := by
  cases cycle with
  | nil => exact absurd rfl h
  | cons first others =>
    obtain ⟨before, after, heq, hbefore⟩ := List.eq_append_cons_of_mem (smallest_mem first others)
    refine ⟨before, smallest first others, after, heq, ?_, fun node hnode => smallest_le hnode⟩
    simp only [canonical]
    rw [heq, takeWhile_ne hbefore, dropWhile_ne hbefore]

lemma isRotated_canonical (cycle : List String) : cycle ~r canonical cycle := by
  rcases eq_or_ne cycle [] with rfl | h
  · exact List.IsRotated.refl []
  · obtain ⟨before, start, after, heq, hcanonical, -⟩ := exists_canonical_eq h
    rw [hcanonical, heq]
    exact List.isRotated_append

lemma startsSmallest_canonical (cycle : List String) : StartsSmallest (canonical cycle) := by
  intro first hfirst node hnode
  rcases eq_or_ne cycle [] with rfl | h
  · exact absurd hnode List.not_mem_nil
  · obtain ⟨before, start, after, heq, hcanonical, hleast⟩ := exists_canonical_eq h
    rw [hcanonical, List.cons_append, List.head?_cons, Option.mem_some_iff] at hfirst
    rw [← hfirst]
    exact hleast node ((isRotated_canonical cycle).mem_iff.2 hnode)

/-- Two turns of a cycle that start at the same node are equal. -/
lemma eq_of_isRotated_of_head? {cycle turned : List String} (h : cycle ~r turned)
    (hnodup : cycle.Nodup) (hhead : cycle.head? = turned.head?) : cycle = turned := by
  obtain ⟨n, rfl⟩ := h
  rcases eq_or_ne cycle [] with rfl | hne
  · simp
  · have hpos : 0 < cycle.length := List.length_pos_of_ne_nil hne
    have hmod : n % cycle.length < cycle.length := Nat.mod_lt n hpos
    rw [← List.rotate_mod, List.head?_rotate hmod, List.head?_eq_getElem?,
      List.getElem?_eq_getElem hpos, List.getElem?_eq_getElem hmod, Option.some_inj,
      hnodup.getElem_inj_iff] at hhead
    exact (hnodup.rotate_eq_self_iff.2 (Or.inl hhead.symm)).symm

/-- A cycle has only one turn that starts at its smallest node. -/
lemma StartsSmallest.eq_of_isRotated {cycle turned : List String} (h : cycle ~r turned)
    (hnodup : cycle.Nodup) (hcycle : StartsSmallest cycle) (hturned : StartsSmallest turned) :
    cycle = turned := by
  apply eq_of_isRotated_of_head? h hnodup
  rcases hc : cycle.head? with _ | a <;> rcases ht : turned.head? with _ | b
  · rfl
  · rw [List.head?_eq_none_iff] at hc
    subst hc
    rw [← List.isRotated_nil_iff'.1 h] at ht
    exact absurd ht (by simp)
  · rw [List.head?_eq_none_iff] at ht
    subst ht
    rw [List.isRotated_nil_iff.1 h] at hc
    exact absurd hc (by simp)
  · have hab : a ≤ b := hcycle a hc b (h.mem_iff.2 (List.mem_of_mem_head? ht))
    have hba : b ≤ a := hturned b ht a (h.mem_iff.1 (List.mem_of_mem_head? hc))
    rw [le_antisymm hab hba]

/-! ### The stretch of a path that an edge back closes -/

section Stretch

variable {E : String → String → Prop} {top entry : String} {path : List String}

/-- The stretch starts at the entry and runs to the inner end of the path. -/
lemma exists_stretch_eq (h : entry ∈ top :: path) :
    ∃ inner outer, top :: path = inner ++ entry :: outer ∧
      Search.stretch entry (top :: path) = entry :: inner.reverse ∧
      top ∈ (entry :: inner.reverse).getLast? := by
  obtain ⟨inner, outer, heq, hnot⟩ := List.eq_append_cons_of_mem h
  refine ⟨inner, outer, heq, ?_, ?_⟩
  · rw [heq, Search.stretch, takeWhile_ne hnot, List.reverse_append, List.reverse_singleton,
      List.singleton_append]
  · have hlast : (entry :: inner.reverse).getLast? = (inner ++ [entry]).head? := by
      rw [← List.getLast?_reverse, List.reverse_append, List.reverse_singleton,
        List.singleton_append]
    have hhead : (inner ++ [entry]).head? = (inner ++ entry :: outer).head? := by
      cases inner <;> rfl
    rw [hlast, hhead, ← heq]
    rfl

/-- A path along a relation, innermost node first, with an edge from its innermost node back to
`entry`: the stretch from `entry` on is a closed walk. -/
lemma isClosedWalk_stretch (hchain : (top :: path).IsChain fun inner outer => E outer inner)
    (hentry : entry ∈ top :: path) (hback : E top entry) :
    IsClosedWalk E (Search.stretch entry (top :: path)) := by
  obtain ⟨inner, outer, heq, hstretch, hlast⟩ := exists_stretch_eq hentry
  have hup : (entry :: inner.reverse).IsChain E := by
    rw [heq, List.append_cons] at hchain
    have hinner := List.isChain_reverse.2 hchain.left_of_append
    rwa [List.reverse_append, List.reverse_singleton, List.singleton_append] at hinner
  rw [hstretch, isClosedWalk_cons_iff, ← List.cons_append, List.isChain_append]
  refine ⟨hup, List.isChain_singleton entry, ?_⟩
  intro last hlast' first hfirst
  rw [Option.mem_unique hlast' hlast]
  rw [List.head?_cons, Option.mem_some_iff] at hfirst
  rwa [← hfirst]

lemma nodup_stretch (hnodup : (top :: path).Nodup) (hentry : entry ∈ top :: path) :
    (Search.stretch entry (top :: path)).Nodup := by
  obtain ⟨inner, outer, heq, hstretch, -⟩ := exists_stretch_eq hentry
  rw [heq, List.append_cons] at hnodup
  have hinner := List.nodup_reverse.2 hnodup.of_append_left
  rwa [List.reverse_append, List.reverse_singleton, List.singleton_append, ← hstretch] at hinner

lemma back_mem_edges_stretch (hentry : entry ∈ top :: path) :
    (top, entry) ∈ edges (Search.stretch entry (top :: path)) := by
  obtain ⟨inner, outer, -, hstretch, hlast⟩ := exists_stretch_eq hentry
  rw [hstretch]
  exact closing_mem_edges hlast

end Stretch

end Strata.Cycle

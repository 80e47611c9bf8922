import Mathlib.Logic.Function.Iterate
import Strata.Proofs.Cycle.Search

/-!
# The loop of a depth-first search

The frames, the path, the set of open nodes and the set of entered nodes are four records of one
search, and each kind of step changes other ones of them.  This file shows that they stay in step
(`InStep`) at every moment of the search of a whole graph, and that every loop ends: each iteration
lowers the weight of the search.

The search of a graph is a loop inside a loop, the outer one over the nodes it starts from.
`Exploration` lays both out as one sequence of moves, so that a moment of the search is a number:
`after graph n` is how far it has come after `n` moves.  The sequence ends in the search that
`detect` computes (`exists_after_eq_complete`).
-/

namespace Strata.Cycle

namespace Search

variable {graph : Adjacency} {s : Search}

/-! ### The loop ends -/

/-- The loop from `s` ends after exactly `k` iterations, and leaves `done`. -/
structure EndsAfter (graph : Adjacency) (k : ℕ) (s done : Search) : Prop where
  /-- This is what the iterations make of the search. -/
  iterate : (step graph)^[k] s = done
  /-- No node is open at the end. -/
  closed : done.frames = []
  /-- Before each of the iterations a node was open. -/
  earlier : ∀ j < k, ((step graph)^[j] s).frames ≠ []

/-- The weight of the search bounds the number of iterations. -/
lemma exists_endsAfter (graph : Adjacency) (s : Search) :
    ∃ k ≤ s.weight graph, EndsAfter graph k s (s.run graph) := by
  fun_induction run graph s with
  | case1 s hframes =>
    exact ⟨0, Nat.zero_le _, rfl, hframes, fun j hj => absurd hj (Nat.not_lt_zero j)⟩
  | case2 s hframes ih =>
    obtain ⟨k, hk, hends⟩ := ih
    have hweight : (s.step graph).weight graph < s.weight graph := step_weight_lt graph s hframes
    refine ⟨k + 1, by omega, ?_, hends.closed, ?_⟩
    · rw [Function.iterate_succ_apply]
      exact hends.iterate
    · -- the first iteration is that of `s` itself, the later ones are those of its next search
      intro j hj
      cases j with
      | zero => exact hframes
      | succ j =>
        rw [Function.iterate_succ_apply]
        exact hends.earlier j (by omega)

/-! ### The records of a search -/

/-- The records of a search agree with one another and with the graph. -/
structure InStep (graph : Adjacency) (s : Search) : Prop where
  /-- Each open node has one frame. -/
  length_frames : s.frames.length = s.path.length
  /-- No node is open twice. -/
  path_nodup : s.path.Nodup
  /-- The set of open nodes is that of the path. -/
  mem_onPath_iff : ∀ node, node ∈ s.onPath ↔ node ∈ s.path
  /-- Open nodes have been entered. -/
  onPath_visited : ∀ node ∈ s.onPath, node ∈ s.visited
  /-- From the start to the innermost node, the path is a walk of the graph. -/
  walk : s.path.reverse.IsChain graph.Edge

lemma Shape.inStep (h : Shape graph s) : InStep graph s where
  length_frames := h.pending.length_eq.symm
  path_nodup := h.nodup
  mem_onPath_iff := fun node => by rw [h.onPath_eq]
  onPath_visited := by
    rw [h.onPath_eq]
    exact h.path_visited
  walk := List.isChain_reverse.2 h.walk

/-- When the loop ends, all nodes have been closed. -/
lemma Shape.run_closed (h : Shape graph s) :
    (s.run graph).path = [] ∧ (s.run graph).onPath = [] := by
  obtain ⟨hshape, hframes⟩ := run_induction (motive := Shape graph)
    (fun _ hframes hshape => hshape.step hframes) h
  have hpath : (s.run graph).path = [] := hshape.path_eq_nil hframes
  exact ⟨hpath, by rw [hshape.onPath_eq, hpath]⟩

/-- An edge back to an open node finds that node on the path, so its cycle is always kept. -/
lemma canonical_stretch_mem_step (h : Shape graph s) {target : String} {edges : List String}
    {rest : List (List String)} (hframes : s.frames = (target :: edges) :: rest)
    (htarget : target ∈ s.onPath) :
    target ∈ s.path ∧ canonical (stretch target s.path) ∈ (s.step graph).cycles := by
  have hpath : target ∈ s.path := by rwa [← h.onPath_eq]
  refine ⟨hpath, ?_⟩
  rw [step_of_mem_onPath graph hframes htarget]
  exact (mem_record_cycles (s := { s with frames := edges :: rest }) hpath).2 (Or.inr rfl)

end Search

/-! ### The moves of a whole search -/

/-- The search of a whole graph on its way. -/
structure Exploration where
  /-- The nodes still to be tried as starts. -/
  starts : List String
  /-- How far the search has come. -/
  search : Search

namespace Exploration

open Search

variable {graph : Adjacency}

/-- Before the first move. -/
def init (graph : Adjacency) : Exploration := ⟨graph.nodes, {}⟩

/-- A move: one iteration of the loop while a node is open.  Otherwise the next start is tried,
which opens it unless it has been entered before. -/
def next (graph : Adjacency) (e : Exploration) : Exploration :=
  if e.search.frames = [] then
    match e.starts with
    | [] => e
    | node :: starts =>
      ⟨starts,
        if e.search.visited.contains node then e.search else e.search.enter graph node⟩
  else ⟨e.starts, e.search.step graph⟩

/-- How far the search has come after a number of moves. -/
def after (graph : Adjacency) (n : ℕ) : Exploration := (next graph)^[n] (init graph)

/-- The search passes through `s`. -/
def Reached (graph : Adjacency) (s : Search) : Prop := ∃ n, (after graph n).search = s

/-- The move that follows the first `n` moves enters the node: it puts it on the path. -/
def Enters (graph : Adjacency) (n : ℕ) (node : String) : Prop :=
  (after graph (n + 1)).search.path = node :: (after graph n).search.path

lemma next_step {starts : List String} {s : Search} (h : s.frames ≠ []) :
    next graph ⟨starts, s⟩ = ⟨starts, s.step graph⟩ :=
  if_neg h

lemma next_start {node : String} {starts : List String} {s : Search} (h : s.frames = []) :
    next graph ⟨node :: starts, s⟩ =
      ⟨starts, if s.visited.contains node then s else s.enter graph node⟩ :=
  if_pos h

lemma next_done {s : Search} (h : s.frames = []) : next graph ⟨[], s⟩ = ⟨[], s⟩ := if_pos h

/-- A move leaves the search as it is, enters a start, or is an iteration of the loop. -/
lemma rel_search_next {R : Search → Search → Prop} (hrefl : ∀ s, R s s)
    (henter : ∀ (s : Search) (node : String), s.frames = [] → node ∉ s.visited →
      R s (s.enter graph node))
    (hstep : ∀ s : Search, s.frames ≠ [] → R s (s.step graph)) (e : Exploration) :
    R e.search (next graph e).search := by
  obtain ⟨starts, s⟩ := e
  by_cases hframes : s.frames = []
  · cases starts with
    | nil =>
      rw [next_done hframes]
      exact hrefl s
    | cons node starts =>
      rw [next_start hframes]
      split
      · exact hrefl s
      · rename_i hnode
        rw [List.contains_iff_mem] at hnode
        exact henter s node hframes hnode
  · rw [next_step hframes]
    exact hstep s hframes

lemma after_succ (graph : Adjacency) (n : ℕ) : after graph (n + 1) = next graph (after graph n) :=
  Function.iterate_succ_apply' _ _ _

lemma shape_after (graph : Adjacency) (n : ℕ) : Shape graph (after graph n).search := by
  induction n with
  | zero => exact Shape.init graph
  | succ n ih =>
    rw [after_succ]
    refine rel_search_next (R := fun s t => Shape graph s → Shape graph t) ?_ ?_ ?_ _ ih
    · exact fun _ hshape => hshape
    · exact fun s node hframes hnode hshape => hshape.enter_first hframes hnode
    · exact fun s hframes hshape => hshape.step hframes

lemma entersAtMostOne_after (graph : Adjacency) (n : ℕ) :
    EntersAtMostOne (after graph n).search (after graph (n + 1)).search := by
  rw [after_succ]
  refine rel_search_next EntersAtMostOne.refl ?_ ?_ _
  · exact fun s node _ hnode => EntersAtMostOne.enter graph hnode
  · exact fun s hframes => EntersAtMostOne.step graph hframes

lemma visited_after_subset (graph : Adjacency) {m n : ℕ} (h : m ≤ n) :
    (after graph m).search.visited ⊆ (after graph n).search.visited := by
  induction n, h using Nat.le_induction with
  | base => exact List.Subset.refl _
  | succ n _ ih => exact List.Subset.trans ih (entersAtMostOne_after graph n).visited_subset

lemma Enters.not_lt {m n : ℕ} {node : String} (hm : Enters graph m node)
    (hn : Enters graph n node) : ¬ m < n := by
  intro hlt
  -- entered by the earlier move, the node is no longer new to the later one
  have hentered := ((entersAtMostOne_after graph m).newly_visited hm).2
  have hnew := ((entersAtMostOne_after graph n).newly_visited hn).1
  exact hnew (visited_after_subset graph hlt hentered)

/-! ### The end of the search -/

/-- While the loop goes on, the starts wait. -/
lemma iterate_next_of_endsAfter {starts : List String} {k : ℕ} {s done : Search}
    (h : EndsAfter graph k s done) : (next graph)^[k] ⟨starts, s⟩ = ⟨starts, done⟩ := by
  induction k generalizing s with
  | zero =>
    obtain rfl : s = done := h.iterate
    rfl
  | succ k ih =>
    have hopen : s.frames ≠ [] := h.earlier 0 (Nat.succ_pos k)
    rw [Function.iterate_succ_apply, next_step hopen]
    refine ih ⟨h.iterate, h.closed, fun j hj => ?_⟩
    exact h.earlier (j + 1) (Nat.succ_lt_succ hj)

/-- The moves from a start to the next one are the search from it. -/
lemma exists_iterate_next_searchFrom (graph : Adjacency) (node : String) (starts : List String)
    {s : Search} (h : s.frames = []) :
    ∃ k, (next graph)^[k] ⟨node :: starts, s⟩ = ⟨starts, searchFrom graph s node⟩ ∧
      (searchFrom graph s node).frames = [] := by
  unfold searchFrom
  split
  · rename_i hnode
    refine ⟨1, ?_, h⟩
    rw [Function.iterate_one, next_start h, if_pos hnode]
  · rename_i hnode
    obtain ⟨k, -, hends⟩ := exists_endsAfter graph (s.enter graph node)
    refine ⟨k + 1, ?_, hends.closed⟩
    rw [Function.iterate_succ_apply, next_start h, if_neg hnode]
    exact iterate_next_of_endsAfter hends

lemma exists_iterate_next_foldl (graph : Adjacency) (tried starts : List String) {s : Search}
    (h : s.frames = []) :
    ∃ k, (next graph)^[k] ⟨tried ++ starts, s⟩ = ⟨starts, tried.foldl (searchFrom graph) s⟩ ∧
      (tried.foldl (searchFrom graph) s).frames = [] := by
  induction tried generalizing s with
  | nil => exact ⟨0, rfl, h⟩
  | cons node tried ih =>
    obtain ⟨j, hj, hclosed⟩ := exists_iterate_next_searchFrom graph node (tried ++ starts) h
    obtain ⟨k, hk, hdone⟩ := ih hclosed
    refine ⟨k + j, ?_, hdone⟩
    rw [Function.iterate_add_apply, List.cons_append, hj, hk]
    rfl

/-- The moves pass through the search as it is before each start is tried. -/
lemma exists_after_eq_foldl {tried starts : List String} (h : graph.nodes = tried ++ starts) :
    ∃ n, after graph n = ⟨starts, tried.foldl (searchFrom graph) {}⟩ := by
  obtain ⟨n, hn, -⟩ := exists_iterate_next_foldl graph tried starts (s := {}) rfl
  refine ⟨n, ?_⟩
  rw [after, init, h, hn]

/-- After finitely many moves the search has been started from every node, and it stays so. -/
lemma exists_after_eq_complete (graph : Adjacency) :
    ∃ total, ∀ n ≥ total, after graph n = ⟨[], complete graph⟩ := by
  obtain ⟨total, htotal, hclosed⟩ := exists_iterate_next_foldl graph graph.nodes [] (s := {}) rfl
  rw [List.append_nil] at htotal
  refine ⟨total, fun n hn => ?_⟩
  obtain ⟨more, rfl⟩ := Nat.exists_eq_add_of_le' hn
  rw [after, Function.iterate_add_apply, init, htotal]
  -- without a start and without an open node a move changes nothing
  exact Function.iterate_fixed (next_done hclosed) more

/-- At every moment of a search its records are in step, and its loop ends, within its weight and
with no node open.  An edge back to an open node finds this node on the path, so that the cycle is
kept.  No node is entered in two moves.  The moves are those of the search that `detect` makes: they
come to each start with the search made so far, and end with the complete one. -/
theorem reached_wellBehaved (graph : Adjacency) :
    (∀ s, Reached graph s →
      InStep graph s ∧
      (∃ k ≤ s.weight graph, EndsAfter graph k s (s.run graph)) ∧
      (s.run graph).path = [] ∧ (s.run graph).onPath = [] ∧
      ∀ target edges rest, s.frames = (target :: edges) :: rest → target ∈ s.onPath →
        target ∈ s.path ∧ canonical (stretch target s.path) ∈ (s.step graph).cycles) ∧
    (∀ m n node, Enters graph m node → Enters graph n node → m = n) ∧
    (∀ tried starts, graph.nodes = tried ++ starts →
      ∃ n, after graph n = ⟨starts, tried.foldl (searchFrom graph) {}⟩) ∧
    ∃ total, ∀ n ≥ total, after graph n = ⟨[], complete graph⟩ := by
  refine ⟨?_, ?_, fun _ _ h => exists_after_eq_foldl h, exists_after_eq_complete graph⟩
  · rintro s ⟨n, rfl⟩
    have hshape := shape_after graph n
    obtain ⟨hpath, honPath⟩ := hshape.run_closed
    refine ⟨hshape.inStep, exists_endsAfter graph _, hpath, honPath, ?_⟩
    intro target edges rest hframes htarget
    exact canonical_stretch_mem_step hshape hframes htarget
  · intro m n node hm hn
    exact Nat.le_antisymm (Nat.not_lt.1 (hn.not_lt hm)) (Nat.not_lt.1 (hm.not_lt hn))

/-- Three modules that depend on one another in a ring. -/
def ring : Adjacency := [("a.ts", ["b.ts"]), ("b.ts", ["c.ts"]), ("c.ts", ["a.ts"])]

/-- After three moves all modules of the ring are open, and the next edge closes the ring. -/
theorem reached_wellBehaved_ring :
    (after ring 3).search.path = ["c.ts", "b.ts", "a.ts"] ∧
      (after ring 3).search.frames = [["a.ts"], [], []] ∧
      InStep ring (after ring 3).search ∧
      ["a.ts", "b.ts", "c.ts"] ∈ ((after ring 3).search.step ring).cycles ∧
      Enters ring 2 "c.ts" ∧ ∀ n, Enters ring n "c.ts" → n = 2 := by
  obtain ⟨hreached, honce, -⟩ := reached_wellBehaved ring
  obtain ⟨hinStep, -, -, -, hback⟩ := hreached (after ring 3).search ⟨3, rfl⟩
  have hframes : (after ring 3).search.frames = [["a.ts"], [], []] := by decide
  have hc : Enters ring 2 "c.ts" := by unfold Enters; decide
  refine ⟨by decide, hframes, hinStep, ?_, hc, fun n hn => honce n 2 "c.ts" hn hc⟩
  exact (hback "a.ts" [] [[], []] hframes (by decide)).2

end Exploration

end Strata.Cycle

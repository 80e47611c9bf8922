import Mathlib.Order.Bounds.Basic
import Strata.Check.Cycles
import Strata.Proofs.Ascending
import Strata.Proofs.Cycle.Finishing

/-!
# Circular dependencies of modules

The check for circular dependencies looks at the graph of the dependencies that lead from one
module of the analysis to another one.  What it reports are simple cycles of this graph, each once
and at the line that starts it (`circularDependencies_sound`).  It need not report every cycle, but
every cycle has an edge in common with a reported one (`circularDependencies_complete`): a project
whose reported cycles have all been broken has no cycle left.
-/

namespace Strata

/-- The successors in a graph that is given as a function of its nodes. -/
lemma Adjacency.successors_map (nodes : List String) (next : String → List String) (a : String) :
    Adjacency.successors (nodes.map fun node => (node, next node)) a =
      if a ∈ nodes then next a else [] := by
  induction nodes with
  | nil => rfl
  | cons node nodes ih =>
    by_cases heq : node = a
    · simp [Adjacency.successors, heq]
    · have hmem : a ∈ node :: nodes ↔ a ∈ nodes := by
        rw [List.mem_cons, or_iff_right (Ne.symm heq)]
      rw [if_congr hmem rfl rfl, ← ih]
      simp [Adjacency.successors, heq]

namespace ModuleGraph

variable {graph : ModuleGraph} {a b : String} {d : Dependency}

/-- There is a module at the path. -/
def Knows (graph : ModuleGraph) (path : String) : Prop := ∃ m ∈ graph.modules, m.path = path

/-- The dependency is one of a module at `a`, and it leads to the analysed file `b`. -/
def Links (graph : ModuleGraph) (a b : String) (d : Dependency) : Prop :=
  ∃ m ∈ graph.modules, m.path = a ∧ d ∈ m.dependencies ∧ d.kind = .resolved ∧ d.target = b

/-- A module at `a` depends on a different known module, at `b`. -/
structure Edge (graph : ModuleGraph) (a b : String) : Prop where
  /-- The paths are different. -/
  ne : a ≠ b
  /-- There is a module at the target. -/
  known : graph.Knows b
  /-- There is a dependency. -/
  linked : ∃ d, graph.Links a b d

/-- The lines on which modules at `a` import the file `b`. -/
def linkLines (graph : ModuleGraph) (a b : String) : Set ℕ :=
  {line | ∃ d, graph.Links a b d ∧ d.line = line}

lemma Links.target (h : graph.Links a b d) : d.target = b := by
  obtain ⟨m, -, -, -, -, htarget⟩ := h
  exact htarget

lemma isSome_module?_iff : (graph.module? a).isSome = true ↔ graph.Knows a := by
  simp [module?, Knows]

/-- The links kept for the graph are the dependencies between different known modules. -/
lemma mem_linksFrom :
    d ∈ graph.linksFrom a ↔ graph.Links a d.target d ∧ a ≠ d.target ∧ graph.Knows d.target := by
  simp only [linksFrom, List.mem_flatMap, List.mem_filter, Bool.and_eq_true, beq_iff_eq,
    bne_iff_ne, isSome_module?_iff, Dependency.isResolved]
  constructor
  · rintro ⟨m, ⟨hm, hpath⟩, hd, ⟨hkind, hne⟩, hknown⟩
    exact ⟨⟨m, hm, hpath, hd, hkind, rfl⟩, hne.symm, hknown⟩
  · rintro ⟨⟨m, hm, hpath, hd, hkind, -⟩, hne, hknown⟩
    exact ⟨m, ⟨hm, hpath⟩, hd, ⟨hkind, hne.symm⟩, hknown⟩

/-- The graph that is searched has exactly these edges. -/
lemma adjacency_edge_iff : graph.adjacency.Edge a b ↔ graph.Edge a b := by
  have hsuccessors : b ∈ graph.adjacency.successors a ↔
      graph.Knows a ∧ ∃ d ∈ graph.linksFrom a, d.target = b := by
    rw [adjacency, Adjacency.successors_map]
    split_ifs with hknown <;> rw [Ascending.mem_strings, List.mem_map] at hknown
    · rw [Ascending.mem_strings, List.mem_map]
      exact (and_iff_right hknown).symm
    · exact iff_of_false List.not_mem_nil fun h => hknown h.1
  rw [Adjacency.Edge, hsuccessors]
  constructor
  · rintro ⟨-, d, hd, rfl⟩
    obtain ⟨hlink, hne, hknown⟩ := mem_linksFrom.1 hd
    exact ⟨hne, hknown, d, hlink⟩
  · rintro ⟨hne, hknown, d, hlink⟩
    have htarget : d.target = b := hlink.target
    subst htarget
    refine ⟨?_, d, mem_linksFrom.2 ⟨hlink, hne, hknown⟩, rfl⟩
    obtain ⟨m, hm, hpath, -⟩ := hlink
    exact ⟨m, hm, hpath⟩

lemma mem_linkLines_iff (h : graph.Edge a b) {line : ℕ} :
    line ∈ ((graph.linksFrom a).filter fun d => d.target == b).map Dependency.line ↔
      line ∈ graph.linkLines a b := by
  simp only [List.mem_map, List.mem_filter, beq_iff_eq, mem_linksFrom, linkLines,
    Set.mem_ofPred_eq]
  constructor
  · rintro ⟨d, ⟨⟨hlink, -⟩, rfl⟩, hline⟩
    exact ⟨d, hlink, hline⟩
  · rintro ⟨d, hlink, hline⟩
    have htarget : d.target = b := hlink.target
    subst htarget
    exact ⟨d, ⟨⟨hlink, h.ne, h.known⟩, rfl⟩, hline⟩

/-- The line reported for an edge is the first of its lines; it is never made up. -/
lemma isLeast_linkLine (h : graph.Edge a b) :
    IsLeast (graph.linkLines a b) (graph.linkLine a b) := by
  obtain ⟨d, hlink⟩ := h.linked
  have hmem := (mem_linkLines_iff h).2 ⟨d, hlink, rfl⟩
  obtain ⟨least, hleast⟩ := Option.isSome_iff_exists.1 (List.isSome_min?_of_mem hmem)
  have hline : graph.linkLine a b = least := by
    rw [linkLine, hleast, Option.getD_some]
  obtain ⟨hfirst, hbound⟩ := List.min?_eq_some_iff.1 hleast
  rw [hline]
  refine ⟨(mem_linkLines_iff h).1 hfirst, ?_⟩
  exact fun line hline => hbound line ((mem_linkLines_iff h).2 hline)

end ModuleGraph

namespace Check

open Strata.Cycle

variable {severity : Severity} {graph : ModuleGraph} {cycle : List String} {v : Violation}

/-- The violation names the modules of the cycle, the first one again at the end, and stands in the
file of the first one. -/
structure Describes (v : Violation) (cycle : List String) : Prop where
  /-- It stands in the first file. -/
  file : cycle.head? = some v.file
  /-- It names the modules in their order. -/
  message : v.message = "Circular dependency: " ++ Text.joinWith " -> " (cycle ++ [v.file])

/-- A simple cycle of modules in its canonical form. -/
structure IsModuleCycle (graph : ModuleGraph) (cycle : List String) : Prop where
  /-- It has at least two modules. -/
  two_le : 2 ≤ cycle.length
  /-- No module occurs twice. -/
  nodup : cycle.Nodup
  /-- Each module depends on the next one, and the last on the first. -/
  closed : IsClosedWalk graph.Edge cycle
  /-- The first module is the one with the smallest path. -/
  starts : StartsSmallest cycle

lemma isClosedWalk_of_mem_detect (h : cycle ∈ detect graph.adjacency) :
    IsClosedWalk graph.Edge cycle := by
  have hclosed := detect_closed h
  refine ⟨hclosed.ne_nil, fun edge hedge => ?_⟩
  exact ModuleGraph.adjacency_edge_iff.1 (hclosed.related edge hedge)

/-- A cycle along a relation that relates nothing to itself has two nodes. -/
lemma two_le_length_of_isClosedWalk (h : IsClosedWalk graph.Edge cycle) : 2 ≤ cycle.length := by
  match cycle, h with
  | [], h => exact absurd rfl h.ne_nil
  | [a], h => exact absurd rfl (h.related (a, a) (closing_mem_edges rfl)).ne
  | _ :: _ :: _, _ => simp

lemma isModuleCycle_of_mem_detect (h : cycle ∈ detect graph.adjacency) :
    IsModuleCycle graph cycle where
  two_le := two_le_length_of_isClosedWalk (isClosedWalk_of_mem_detect h)
  nodup := detect_simple h
  closed := isClosedWalk_of_mem_detect h
  starts := detect_startsSmallest h

/-- The report on a cycle of modules. -/
lemma exists_circular_eq (severity : Severity) (h : IsModuleCycle graph cycle) :
    ∃ v, circular severity graph cycle = some v ∧ Describes v cycle ∧
      ∃ first second others, cycle = first :: second :: others ∧ v.file = first ∧
        IsLeast (graph.linkLines first second) v.line := by
  match cycle, h with
  | [], h => exact absurd rfl h.closed.ne_nil
  | [_], h => exact absurd h.two_le (by simp)
  | first :: second :: others, h =>
    have hedge : graph.Edge first second := h.closed.related (first, second) List.mem_cons_self
    exact ⟨_, rfl, ⟨rfl, rfl⟩, first, second, others, rfl, rfl,
      ModuleGraph.isLeast_linkLine hedge⟩

/-- If each element gives a result, the results stand in the order of the elements. -/
lemma forall₂_filterMap {α β : Type} {f : α → Option β} {R : α → β → Prop} {items : List α}
    (h : ∀ a ∈ items, ∃ b, f a = some b ∧ R a b) : List.Forall₂ R items (items.filterMap f) := by
  induction items with
  | nil => exact List.Forall₂.nil
  | cons a items ih =>
    obtain ⟨b, hb, hab⟩ := h a List.mem_cons_self
    rw [List.filterMap_cons_some hb]
    exact List.Forall₂.cons hab (ih fun a ha => h a (List.mem_cons_of_mem _ ha))

/-- Soundness: the reports describe simple cycles of modules, each cycle in one turn only, and
stand at the first line on which the first module imports the second. -/
theorem circularDependencies_sound (severity : Severity) (graph : ModuleGraph) :
    List.Forall₂
        (fun cycle v => IsModuleCycle graph cycle ∧ Describes v cycle ∧
          ∃ first second others, cycle = first :: second :: others ∧ v.file = first ∧
            IsLeast (graph.linkLines first second) v.line)
        (detect graph.adjacency) (circularDependencies severity graph) ∧
      (detect graph.adjacency).Pairwise fun a b => ¬ a ~r b := by
  refine ⟨forall₂_filterMap fun cycle hcycle => ?_, detect_pairwise_not_isRotated _⟩
  have hmodules := isModuleCycle_of_mem_detect hcycle
  obtain ⟨v, hv, hdescribes, hline⟩ := exists_circular_eq severity hmodules
  exact ⟨v, hv, hmodules, hdescribes, hline⟩

/-! ### No cycle escapes -/

/-- An edge between modules that belongs to no reported cycle. -/
def Remaining (graph : ModuleGraph) (a b : String) : Prop :=
  graph.Edge a b ∧ ∀ cycle ∈ detect graph.adjacency, (a, b) ∉ edges cycle

lemma acyclic_remaining (graph : ModuleGraph) : Acyclic (Remaining graph) := by
  intro a ha
  refine acyclic_unreported graph.adjacency a (Relation.TransGen.mono ?_ _ _ ha)
  rintro x y ⟨hedge, hnone⟩
  refine ⟨ModuleGraph.adjacency_edge_iff.2 hedge, ?_⟩
  rintro ⟨cycle, hcycle, hmem⟩
  exact hnone cycle hcycle hmem

/-- An edge that does not remain belongs to a reported cycle. -/
lemma exists_cycle_of_not_remaining {a b : String} (hedge : graph.Edge a b)
    (h : ¬ Remaining graph a b) : ∃ cycle ∈ detect graph.adjacency, (a, b) ∈ edges cycle := by
  by_contra hnone
  push Not at hnone
  exact h ⟨hedge, hnone⟩

lemma exists_common_edge {walk : List String} (h : IsClosedWalk graph.Edge walk) :
    ∃ cycle ∈ detect graph.adjacency, ∃ edge ∈ edges walk, edge ∈ edges cycle := by
  obtain ⟨edge, hedge, hnot⟩ := h.exists_edge_not (acyclic_remaining graph)
  obtain ⟨cycle, hcycle, hmem⟩ := exists_cycle_of_not_remaining (h.related edge hedge) hnot
  exact ⟨cycle, hcycle, edge, hedge, hmem⟩

/-- A component with two modules holds a reported cycle: the one with the edge of the component
that does not remain. -/
lemma exists_cycle_subset_component {a : String} (h : (component graph.Edge a).Nontrivial) :
    ∃ cycle ∈ detect graph.adjacency, ∀ node ∈ cycle, node ∈ component graph.Edge a := by
  obtain ⟨x, y, ⟨hax, hxa⟩, hedge, hnot⟩ :=
    exists_edge_not_of_nontrivial_component h (acyclic_remaining graph)
  obtain ⟨cycle, hcycle, hmem⟩ := exists_cycle_of_not_remaining hedge hnot
  have hclosed := isClosedWalk_of_mem_detect hcycle
  have hx : x ∈ cycle := fst_mem_of_mem_edges hmem
  refine ⟨cycle, hcycle, fun node hnode => ⟨?_, ?_⟩⟩
  · exact hax.trans (hclosed.reaches hx hnode)
  · exact (hclosed.reaches hnode hx).trans hxa

lemma detect_eq_nil_iff_acyclic (graph : ModuleGraph) :
    detect graph.adjacency = [] ↔ Acyclic graph.Edge := by
  constructor
  · intro hnil a ha
    refine acyclic_remaining graph a (Relation.TransGen.mono ?_ _ _ ha)
    intro x y hedge
    exact ⟨hedge, by rw [hnil]; exact fun _ h => absurd h List.not_mem_nil⟩
  · intro hacyclic
    rw [List.eq_nil_iff_forall_not_mem]
    intro cycle hcycle
    exact hacyclic.not_isClosedWalk cycle (isClosedWalk_of_mem_detect hcycle)

/-- Completeness: every cycle of modules shares an edge with a reported one, so that nothing
circular is left without the edges of the reported cycles.  Nothing is reported exactly if there is
no cycle, and each strongly connected component of two or more modules holds a reported cycle. -/
theorem circularDependencies_complete (severity : Severity) (graph : ModuleGraph) :
    List.Forall₂ (fun cycle v => Describes v cycle)
        (detect graph.adjacency) (circularDependencies severity graph) ∧
      (∀ walk, IsClosedWalk graph.Edge walk →
        ∃ cycle ∈ detect graph.adjacency, ∃ edge ∈ edges walk, edge ∈ edges cycle) ∧
      Acyclic (fun a b => graph.Edge a b ∧ ∀ cycle ∈ detect graph.adjacency, (a, b) ∉ edges cycle) ∧
      (circularDependencies severity graph = [] ↔ Acyclic graph.Edge) ∧
      ∀ a, (component graph.Edge a).Nontrivial →
        ∃ cycle ∈ detect graph.adjacency, ∀ node ∈ cycle, node ∈ component graph.Edge a := by
  have hreports : List.Forall₂ (fun cycle v => Describes v cycle)
      (detect graph.adjacency) (circularDependencies severity graph) := by
    refine forall₂_filterMap fun cycle hcycle => ?_
    obtain ⟨v, hv, hdescribes, -⟩ :=
      exists_circular_eq severity (isModuleCycle_of_mem_detect hcycle)
    exact ⟨v, hv, hdescribes⟩
  refine ⟨hreports, fun walk hwalk => exists_common_edge hwalk, acyclic_remaining graph, ?_,
    fun a ha => exists_cycle_subset_component ha⟩
  rw [← detect_eq_nil_iff_acyclic, ← List.length_eq_zero_iff, ← hreports.length_eq,
    List.length_eq_zero_iff]

end Check

end Strata

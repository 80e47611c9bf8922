import Strata.Proofs.Cycle.Search

/-!
# What a depth-first search leaves over

The search enters every node once and so does not see every cycle.  But take away the edges of the
cycles it found: no cycle is left.  The reason is the order in which nodes are closed.  When a node
is closed, each of its edges either leads back into the path, and then belongs to a cycle that was
found, or leads to a node that has been closed before.  So along the edges that are left the nodes
come in the opposite order of their closing, and no walk along them returns to its start.

The order itself need not be written down: a closed node is accessible along the edges that are
left (`Finishing.left`), because all its successors are.  While a node is open, its edges are of
four kinds (`EdgesSettled`): still to be looked at, the edge to the next open node, part of a cycle
that was found, or leading to a closed node.
-/

namespace Strata.Cycle

/-- The edge belongs to one of the cycles. -/
def Reported (cycles : List (List String)) (a b : String) : Prop :=
  ∃ cycle ∈ cycles, (a, b) ∈ edges cycle

/-- An edge of the graph that belongs to none of the cycles. -/
def Unreported (graph : Adjacency) (cycles : List (List String)) (a b : String) : Prop :=
  graph.Edge a b ∧ ¬ Reported cycles a b

namespace Search

variable {graph : Adjacency} {s : Search}

/-- The node has been entered and closed again. -/
def Left (s : Search) (node : String) : Prop := node ∈ s.visited ∧ node ∉ s.path

/-- The edge can close no cycle that is not found: it is in one, or leads to a closed node. -/
def Settled (s : Search) (a b : String) : Prop := Reported s.cycles a b ∨ s.Left b

/-- The edges of the open nodes, innermost first: each is pending, leads to the next inner node
`child`, or is settled. -/
def EdgesSettled (graph : Adjacency) (settled : String → String → Prop) :
    (child : Option String) → (path : List String) → (frames : List (List String)) → Prop
  | child, node :: path, pending :: frames =>
    (∀ target, graph.Edge node target →
      target ∈ pending ∨ child = some target ∨ settled node target) ∧
      EdgesSettled graph settled (some node) path frames
  | _, _, _ => True

namespace EdgesSettled

variable {settled settled' : String → String → Prop} {child child' : Option String}
  {top target : String} {path edges : List String} {frames rest : List (List String)}

lemma mono (h : EdgesSettled graph settled child path frames)
    (hsettled : ∀ a b, settled a b → settled' a b)
    (hchild : ∀ a b, child = some b → child' = some b ∨ settled' a b) :
    EdgesSettled graph settled' child' path frames := by
  induction path generalizing child child' frames with
  | nil => trivial
  | cons node path ih =>
    cases frames with
    | nil => trivial
    | cons pending frames =>
      obtain ⟨hnode, hrest⟩ := h
      refine ⟨fun target hedge => ?_, ih hrest fun _ _ => Or.inl⟩
      rcases hnode target hedge with hpending | hnext | hdone
      · exact Or.inl hpending
      · exact Or.inr (hchild node target hnext)
      · exact Or.inr (Or.inr (hsettled node target hdone))

/-- The innermost node gives up its next edge, which leads to the new inner node or is settled. -/
lemma advance (h : EdgesSettled graph settled none (top :: path) ((target :: edges) :: rest))
    (hsettled : ∀ a b, settled a b → settled' a b)
    (htarget : child' = some target ∨ settled' top target) :
    EdgesSettled graph settled' child' (top :: path) (edges :: rest) := by
  obtain ⟨htop, hrest⟩ := h
  refine ⟨fun b hedge => ?_, hrest.mono hsettled fun _ _ => Or.inl⟩
  rcases htop b hedge with hpending | hnone | hdone
  · rcases List.mem_cons.1 hpending with rfl | hpending
    · exact Or.inr htarget
    · exact Or.inl hpending
  · exact absurd hnone (by simp)
  · exact Or.inr (Or.inr (hsettled top b hdone))

end EdgesSettled

/-- The invariant that nothing escapes: the edges of open nodes are accounted for, and from closed
nodes the edges that are left lead to no cycle. -/
structure Finishing (graph : Adjacency) (s : Search) : Prop where
  /-- The edges of the open nodes. -/
  pending : EdgesSettled graph s.Settled none s.path s.frames
  /-- The edges that are left end after finitely many steps from a closed node. -/
  left : ∀ node, s.Left node → Acc (Function.swap (Unreported graph s.cycles)) node

namespace Finishing

lemma init (graph : Adjacency) : Finishing graph {} where
  pending := trivial
  left := fun _ h => absurd h.1 List.not_mem_nil

/-- With more cycles found, fewer edges are left. -/
lemma acc_mono {cycles more : List (List String)} (h : ∀ cycle ∈ cycles, cycle ∈ more)
    {node : String} (hacc : Acc (Function.swap (Unreported graph cycles)) node) :
    Acc (Function.swap (Unreported graph more)) node := by
  refine Subrelation.accessible ?_ hacc
  rintro b a ⟨hedge, hnot⟩
  refine ⟨hedge, ?_⟩
  rintro ⟨cycle, hcycle, hmem⟩
  exact hnot ⟨cycle, h cycle hcycle, hmem⟩

/-- A node is closed when all its edges are settled, so it is accessible along those that are
left. -/
lemma leave (h : Finishing graph s) (hshape : Shape graph s) {rest : List (List String)}
    (hframes : s.frames = [] :: rest) : Finishing graph s.leave := by
  obtain ⟨top, path, hpath, -⟩ := hshape.exists_top hframes
  have hopen := h.pending
  rw [hpath, hframes] at hopen
  obtain ⟨htarget, hrest⟩ := hopen
  rw [hshape.leave_eq hpath]
  refine ⟨?_, ?_⟩
  · -- the edge of the parent to the closed node becomes settled
    simp only [hframes, List.tail_cons]
    refine hrest.mono ?_ ?_
    · rintro a b (hreported | ⟨hvisited, hnot⟩)
      · exact Or.inl hreported
      · rw [hpath] at hnot
        exact Or.inr ⟨hvisited, fun hmem => hnot (List.mem_cons_of_mem _ hmem)⟩
    · rintro a b hb
      rw [Option.some_inj] at hb
      subst hb
      have hvisited : top ∈ s.visited :=
        hshape.path_visited top (by rw [hpath]; exact List.mem_cons_self)
      exact Or.inr (Or.inr ⟨hvisited, hshape.top_not_mem hpath⟩)
  · -- of the nodes that are closed now, only the innermost one was not closed before
    rintro node ⟨hvisited, hnot⟩
    by_cases hnode : node = top
    · subst hnode
      refine Acc.intro node ?_
      rintro b ⟨hedge, hunreported⟩
      rcases htarget b hedge with hempty | hnone | hreported | hleft
      · exact absurd hempty List.not_mem_nil
      · exact absurd hnone (by simp)
      · exact absurd hreported hunreported
      · exact h.left b hleft
    · refine h.left node ⟨hvisited, ?_⟩
      rw [hpath]
      exact fun hmem => (List.mem_cons.1 hmem).elim hnode hnot

/-- A new node has all its edges pending, and closed nodes stay closed. -/
lemma enter {node : String} (hnode : node ∉ s.visited)
    (hopen : EdgesSettled graph s.Settled (some node) s.path s.frames)
    (hleft : ∀ other, s.Left other → Acc (Function.swap (Unreported graph s.cycles)) other) :
    Finishing graph (s.enter graph node) where
  pending := by
    refine ⟨fun _ => Or.inl, hopen.mono ?_ fun _ _ => Or.inl⟩
    rintro a b (hreported | ⟨hvisited, hnot⟩)
    · exact Or.inl hreported
    · refine Or.inr ⟨List.mem_cons_of_mem _ hvisited, ?_⟩
      intro hmem
      rcases List.mem_cons.1 hmem with rfl | hmem
      · exact hnode hvisited
      · exact hnot hmem
  left := by
    rintro other ⟨hvisited, hnot⟩
    have hne : other ≠ node := by
      rintro rfl
      exact hnot List.mem_cons_self
    exact hleft other ⟨(List.mem_cons.1 hvisited).resolve_left hne,
      fun hmem => hnot (List.mem_cons_of_mem _ hmem)⟩

/-! What becomes of an edge to `target` that the innermost node `top` has just given up. -/

section Edge

variable {top target : String} {path edges : List String} {rest : List (List String)}

/-- An edge back into the path belongs to the cycle that is recorded. -/
lemma reported_record (hpath : s.path = top :: path) (htarget : target ∈ s.path) :
    Reported (s.record target).cycles top target := by
  refine ⟨canonical (stretch target s.path), (mem_record_cycles htarget).2 (Or.inr rfl), ?_⟩
  rw [mem_edges_of_isRotated (isRotated_canonical _)]
  rw [hpath] at htarget ⊢
  exact back_mem_edges_stretch htarget

lemma record (hpath : s.path = top :: path) (hframes : s.frames = edges :: rest)
    (hopen : EdgesSettled graph s.Settled none (top :: path) ((target :: edges) :: rest))
    (hleft : ∀ node, s.Left node → Acc (Function.swap (Unreported graph s.cycles)) node)
    (htarget : target ∈ s.path) : Finishing graph (s.record target) := by
  have hkept : ∀ cycle ∈ s.cycles, cycle ∈ (s.record target).cycles :=
    fun cycle hcycle => (mem_record_cycles htarget).2 (Or.inl hcycle)
  have hsame : ∀ node, (s.record target).Left node ↔ s.Left node := by
    intro node
    rw [Left, Left, record_visited, record_path]
  refine ⟨?_, fun node hnode => acc_mono hkept (hleft node ((hsame node).1 hnode))⟩
  rw [record_path, record_frames, hpath, hframes]
  refine hopen.advance ?_ (Or.inr (Or.inl (reported_record hpath htarget)))
  rintro a b (⟨cycle, hcycle, hmem⟩ | hdone)
  · exact Or.inl ⟨cycle, hkept cycle hcycle, hmem⟩
  · exact Or.inr ((hsame b).2 hdone)

lemma skip (hpath : s.path = top :: path) (hframes : s.frames = edges :: rest)
    (hopen : EdgesSettled graph s.Settled none (top :: path) ((target :: edges) :: rest))
    (hleft : ∀ node, s.Left node → Acc (Function.swap (Unreported graph s.cycles)) node)
    (htarget : s.Left target) : Finishing graph s := by
  refine ⟨?_, hleft⟩
  rw [hpath, hframes]
  exact hopen.advance (fun _ _ hdone => hdone) (Or.inr (Or.inr htarget))

lemma descend (hpath : s.path = top :: path) (hframes : s.frames = edges :: rest)
    (hopen : EdgesSettled graph s.Settled none (top :: path) ((target :: edges) :: rest))
    (hleft : ∀ node, s.Left node → Acc (Function.swap (Unreported graph s.cycles)) node)
    (htarget : target ∉ s.visited) : Finishing graph (s.enter graph target) := by
  refine enter htarget ?_ hleft
  rw [hpath, hframes]
  exact hopen.advance (fun _ _ hdone => hdone) (Or.inl rfl)

end Edge

lemma step (h : Finishing graph s) (hshape : Shape graph s) (hframes : s.frames ≠ []) :
    Finishing graph (s.step graph) := by
  rcases step_cases graph hframes with ⟨rest, hempty, hstep⟩ | ⟨target, edges, rest, hcons, hstep⟩
  · rw [hstep]
    exact h.leave hshape hempty
  · obtain ⟨top, path, hpath, -⟩ := hshape.exists_top hcons
    have hopen := h.pending
    rw [hpath, hcons] at hopen
    rcases hstep with ⟨htarget, hstep⟩ | ⟨hnot, hvisited, hstep⟩ | ⟨-, hvisited, hstep⟩
    · -- the edge leads back into the path
      rw [hshape.onPath_eq] at htarget
      rw [hstep]
      exact record (s := { s with frames := edges :: rest }) hpath rfl hopen h.left htarget
    · -- it leads to a closed node
      rw [hshape.onPath_eq] at hnot
      rw [hstep]
      exact skip (s := { s with frames := edges :: rest }) hpath rfl hopen h.left
        ⟨hvisited, hnot⟩
    · -- it leads to a new node, which becomes the inner one
      rw [hstep]
      exact descend (s := { s with frames := edges :: rest }) hpath rfl hopen h.left hvisited

end Finishing

/-! ### Every node is entered -/

lemma mem_visited_step (hframes : s.frames ≠ []) {node : String} (h : node ∈ s.visited) :
    node ∈ (s.step graph).visited :=
  (EntersAtMostOne.step graph hframes).visited_subset h

lemma mem_visited_run {node : String} (h : node ∈ s.visited) : node ∈ (s.run graph).visited :=
  (run_induction (motive := fun s => node ∈ s.visited)
    (fun _ hframes hnode => mem_visited_step hframes hnode) h).1

lemma mem_visited_searchFrom (graph : Adjacency) (s : Search) (node : String) :
    node ∈ (searchFrom graph s node).visited := by
  unfold searchFrom
  split
  · rename_i hnode
    exact List.contains_iff_mem.1 hnode
  · exact mem_visited_run List.mem_cons_self

lemma mem_visited_foldl_searchFrom {node : String} (nodes : List String)
    (h : node ∈ s.visited) : node ∈ (nodes.foldl (searchFrom graph) s).visited := by
  induction nodes generalizing s with
  | nil => exact h
  | cons next nodes ih =>
    rw [List.foldl_cons]
    apply ih
    unfold searchFrom
    split
    · exact h
    · exact mem_visited_run (List.mem_cons_of_mem _ h)

lemma mem_visited_complete {node : String} (h : node ∈ graph.nodes) :
    node ∈ (complete graph).visited := by
  obtain ⟨before, after, heq⟩ := List.append_of_mem h
  rw [complete, heq, List.foldl_append, List.foldl_cons]
  exact mem_visited_foldl_searchFrom after (mem_visited_searchFrom graph _ node)

lemma complete_finishing (graph : Adjacency) :
    Finishing graph (complete graph) ∧ (complete graph).path = [] := by
  have hinv : (Shape graph (complete graph) ∧ Finishing graph (complete graph)) ∧
      (complete graph).frames = [] := by
    refine foldl_searchFrom_induction (motive := fun s => Shape graph s ∧ Finishing graph s)
      ?_ ?_ graph.nodes ⟨Shape.init graph, Finishing.init graph⟩ rfl
    · rintro s node hframes hnode ⟨hshape, hfinishing⟩
      refine ⟨hshape.enter_first hframes hnode, Finishing.enter hnode ?_ hfinishing.left⟩
      rw [hshape.path_eq_nil hframes]
      trivial
    · rintro s hframes ⟨hshape, hfinishing⟩
      exact ⟨hshape.step hframes, hfinishing.step hshape hframes⟩
  obtain ⟨⟨hshape, hfinishing⟩, hframes⟩ := hinv
  exact ⟨hfinishing, hshape.path_eq_nil hframes⟩

end Search

/-- A node that is not listed has no successors. -/
lemma mem_nodes_of_edge {graph : Adjacency} {a b : String} (h : graph.Edge a b) :
    a ∈ graph.nodes := by
  unfold Adjacency.Edge Adjacency.successors at h
  rcases hfind : graph.find? fun entry => entry.1 == a with _ | entry
  · rw [hfind] at h
    exact absurd h List.not_mem_nil
  · have hkey : entry.1 = a := by simpa using List.find?_some hfind
    rw [← hkey]
    exact List.mem_map_of_mem (List.mem_of_find?_eq_some hfind)

/-- Along the edges that belong to no cycle found, every walk ends. -/
lemma wellFounded_unreported (graph : Adjacency) :
    WellFounded (Function.swap (Unreported graph (detect graph))) := by
  obtain ⟨hfinishing, hpath⟩ := Search.complete_finishing graph
  refine ⟨fun node => ?_⟩
  by_cases hnode : node ∈ graph.nodes
  · refine hfinishing.left node ⟨Search.mem_visited_complete hnode, ?_⟩
    rw [hpath]
    exact List.not_mem_nil
  · -- such a node is never entered, but it has no edges either
    refine Acc.intro node ?_
    rintro b ⟨hedge, -⟩
    exact absurd (mem_nodes_of_edge hedge) hnode

/-- Without the edges of the cycles found, the graph is acyclic. -/
lemma acyclic_unreported (graph : Adjacency) : Acyclic (Unreported graph (detect graph)) :=
  acyclic_of_wellFounded (wellFounded_unreported graph)

end Strata.Cycle

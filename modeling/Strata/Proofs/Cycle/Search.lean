import Mathlib.Data.List.Forall2
import Strata.Proofs.Cycle.Canonical

/-!
# The shape of a depth-first search

The open nodes of a search form a walk of the graph without repetition, and each of them has a
frame with edges of its own.  This holds before and after every step, whatever node the search was
started from, so an edge back into the path always closes a cycle of the graph.

`step_cases` says once what a step can do, `EntersAtMostOne` what becomes of the entered nodes, and
`foldl_searchFrom_induction` that what holds at the start and is kept by entering a node and by
every step holds at the end.  The other files on the search rest on these.
-/

namespace Strata

/-- There is an edge from one node to another. -/
def Adjacency.Edge (graph : Adjacency) (a b : String) : Prop := b ∈ graph.successors a

namespace Cycle.Search

variable {graph : Adjacency} {s : Search}

/-! ### What a step can do -/

@[simp] lemma record_frames (entry : String) (s : Search) :
    (s.record entry).frames = s.frames := by
  unfold record; dsimp only; split_ifs <;> rfl

@[simp] lemma record_path (entry : String) (s : Search) : (s.record entry).path = s.path := by
  unfold record; dsimp only; split_ifs <;> rfl

@[simp] lemma record_onPath (entry : String) (s : Search) :
    (s.record entry).onPath = s.onPath := by
  unfold record; dsimp only; split_ifs <;> rfl

@[simp] lemma record_visited (entry : String) (s : Search) :
    (s.record entry).visited = s.visited := by
  unfold record; dsimp only; split_ifs <;> rfl

/-- The cycles after an edge back to a node of the path. -/
lemma record_cycles {entry : String} (h : entry ∈ s.path) :
    (s.record entry).cycles =
      if canonical (stretch entry s.path) ∈ s.cycles then s.cycles
      else s.cycles ++ [canonical (stretch entry s.path)] := by
  have hpath : s.path.contains entry = true := List.contains_iff_mem.2 h
  simp only [record, hpath, if_true, List.contains_iff_mem]
  split_ifs <;> rfl

lemma mem_record_cycles {entry : String} (h : entry ∈ s.path) {cycle : List String} :
    cycle ∈ (s.record entry).cycles ↔
      cycle ∈ s.cycles ∨ cycle = canonical (stretch entry s.path) := by
  rw [record_cycles h]
  split_ifs with hknown
  · constructor
    · exact Or.inl
    · rintro (hcycle | rfl)
      · exact hcycle
      · exact hknown
  · rw [List.mem_append, List.mem_singleton]

/-- A step closes the innermost node if it has no edge left.  Otherwise it takes the next edge,
which leads back into the path, to a node that was left before, or to a new node. -/
lemma step_cases (graph : Adjacency) (h : s.frames ≠ []) :
    (∃ rest, s.frames = [] :: rest ∧ s.step graph = s.leave) ∨
      ∃ target edges rest, s.frames = (target :: edges) :: rest ∧
        ((target ∈ s.onPath ∧
            s.step graph = record target { s with frames := edges :: rest }) ∨
          (target ∉ s.onPath ∧ target ∈ s.visited ∧
            s.step graph = { s with frames := edges :: rest }) ∨
          (target ∉ s.onPath ∧ target ∉ s.visited ∧
            s.step graph = enter graph target { s with frames := edges :: rest })) := by
  rcases hframes : s.frames with _ | ⟨_ | ⟨target, edges⟩, rest⟩
  · exact absurd hframes h
  · exact Or.inl ⟨rest, rfl, by simp only [step, hframes]⟩
  · refine Or.inr ⟨target, edges, rest, rfl, ?_⟩
    simp only [step, hframes, List.contains_iff_mem]
    by_cases hpath : target ∈ s.onPath
    · exact Or.inl ⟨hpath, if_pos hpath⟩
    · by_cases hvisited : target ∈ s.visited
      · exact Or.inr (Or.inl ⟨hpath, hvisited, by rw [if_neg hpath, if_pos hvisited]⟩)
      · exact Or.inr (Or.inr ⟨hpath, hvisited, by rw [if_neg hpath, if_neg hvisited]⟩)

lemma step_of_mem_onPath (graph : Adjacency) {target : String} {edges : List String}
    {rest : List (List String)} (hframes : s.frames = (target :: edges) :: rest)
    (h : target ∈ s.onPath) :
    s.step graph = record target { s with frames := edges :: rest } := by
  simp only [step, hframes, List.contains_iff_mem, if_pos h]

/-! ### Entering a node -/

/-- Between `s` and `t` a new node is entered and put on the path, or none is entered and the path
does not grow. -/
def EntersAtMostOne (s t : Search) : Prop :=
  (∃ node, node ∉ s.visited ∧ t.path = node :: s.path ∧ t.visited = node :: s.visited) ∨
    (t.path <:+ s.path ∧ t.visited = s.visited)

namespace EntersAtMostOne

variable {t : Search} {node : String}

lemma refl (s : Search) : EntersAtMostOne s s := Or.inr ⟨List.suffix_refl _, rfl⟩

lemma enter (graph : Adjacency) (hnode : node ∉ s.visited) :
    EntersAtMostOne s (s.enter graph node) :=
  Or.inl ⟨node, hnode, rfl, rfl⟩

lemma step (graph : Adjacency) (hframes : s.frames ≠ []) :
    EntersAtMostOne s (s.step graph) := by
  rcases step_cases graph hframes with ⟨rest, -, hstep⟩ |
    ⟨target, edges, rest, -, ⟨-, hstep⟩ | ⟨-, -, hstep⟩ | ⟨-, hvisited, hstep⟩⟩
  · rw [hstep, Search.leave]
    split
    · exact Or.inr ⟨List.suffix_refl _, rfl⟩
    · rename_i top path hpath
      exact Or.inr ⟨by rw [hpath]; exact List.suffix_cons top path, rfl⟩
  · rw [hstep]
    exact Or.inr ⟨by rw [record_path], by rw [record_visited]⟩
  · rw [hstep]
    exact Or.inr ⟨List.suffix_refl _, rfl⟩
  · rw [hstep]
    exact Or.inl ⟨target, hvisited, rfl, rfl⟩

lemma visited_subset (h : EntersAtMostOne s t) : s.visited ⊆ t.visited := by
  rcases h with ⟨node, -, -, hvisited⟩ | ⟨-, hvisited⟩
  · rw [hvisited]
    exact List.subset_cons_self node s.visited
  · rw [hvisited]
    exact List.Subset.refl _

/-- A node that is put on the path has not been entered before, and from then on it has. -/
lemma newly_visited (h : EntersAtMostOne s t) (hpath : t.path = node :: s.path) :
    node ∉ s.visited ∧ node ∈ t.visited := by
  rcases h with ⟨new, hnew, hentered, hvisited⟩ | ⟨hsuffix, -⟩
  · obtain rfl : new = node := by
      rw [hpath] at hentered
      exact (List.cons.inj hentered).1.symm
    exact ⟨hnew, by rw [hvisited]; exact List.mem_cons_self⟩
  · have hlength := hsuffix.length_le
    rw [hpath, List.length_cons] at hlength
    omega

end EntersAtMostOne

/-! ### What holds at the end of a search -/

/-- What every step keeps holds when no node is open any more. -/
lemma run_induction {motive : Search → Prop}
    (hstep : ∀ s : Search, s.frames ≠ [] → motive s → motive (s.step graph)) (h : motive s) :
    motive (s.run graph) ∧ (s.run graph).frames = [] := by
  fun_induction run graph s with
  | case1 s hframes => exact ⟨h, hframes⟩
  | case2 s hframes ih => exact ih (hstep s hframes h)

lemma foldl_searchFrom_induction {motive : Search → Prop}
    (henter : ∀ (s : Search) (node : String), s.frames = [] → node ∉ s.visited → motive s →
      motive (s.enter graph node))
    (hstep : ∀ s : Search, s.frames ≠ [] → motive s → motive (s.step graph))
    (nodes : List String) (h : motive s) (hframes : s.frames = []) :
    motive (nodes.foldl (searchFrom graph) s) ∧
      (nodes.foldl (searchFrom graph) s).frames = [] := by
  induction nodes generalizing s with
  | nil => exact ⟨h, hframes⟩
  | cons node nodes ih =>
    rw [List.foldl_cons]
    unfold searchFrom
    split
    · exact ih h hframes
    · rename_i hnode
      rw [List.contains_iff_mem] at hnode
      obtain ⟨hrun, hdone⟩ := run_induction hstep (henter s node hframes hnode h)
      exact ih hrun hdone

/-! ### The shape of a search -/

/-- The open nodes form a walk without repetition, and their frames hold edges of theirs. -/
structure Shape (graph : Adjacency) (s : Search) : Prop where
  /-- The set of open nodes is that of the path. -/
  onPath_eq : s.onPath = s.path
  /-- No node is open twice. -/
  nodup : s.path.Nodup
  /-- There is an edge from each open node to the next inner one. -/
  walk : s.path.IsChain fun inner outer => graph.Edge outer inner
  /-- Each open node has a frame with edges of its own. -/
  pending : List.Forall₂ (fun node edges => ∀ target ∈ edges, graph.Edge node target)
    s.path s.frames
  /-- Open nodes have been entered. -/
  path_visited : ∀ node ∈ s.path, node ∈ s.visited
  /-- No node is entered twice. -/
  visited_nodup : s.visited.Nodup

namespace Shape

lemma init (graph : Adjacency) : Shape graph {} where
  onPath_eq := rfl
  nodup := List.nodup_nil
  walk := List.isChain_nil
  pending := List.Forall₂.nil
  path_visited := fun _ h => h
  visited_nodup := List.nodup_nil

/-- The innermost frame belongs to the innermost node of the path. -/
lemma exists_top (h : Shape graph s) {edges : List String} {rest : List (List String)}
    (hframes : s.frames = edges :: rest) :
    ∃ top path, s.path = top :: path ∧ (∀ target ∈ edges, graph.Edge top target) ∧
      List.Forall₂ (fun node edges => ∀ target ∈ edges, graph.Edge node target) path rest := by
  have hpending := h.pending
  rw [hframes, List.forall₂_cons_right_iff] at hpending
  obtain ⟨top, path, htop, hrest, hpath⟩ := hpending
  exact ⟨top, path, hpath, htop, hrest⟩

lemma path_eq_nil (h : Shape graph s) (hframes : s.frames = []) : s.path = [] := by
  have hpending := h.pending
  rwa [hframes, List.forall₂_nil_right_iff] at hpending

lemma top_not_mem (h : Shape graph s) {top : String} {path : List String}
    (hpath : s.path = top :: path) : top ∉ path := by
  have hnodup := h.nodup
  rw [hpath] at hnodup
  exact (List.nodup_cons.1 hnodup).1

/-- Closing a node shortens the path by one node and forgets that node. -/
lemma leave_eq (h : Shape graph s) {top : String} {path : List String}
    (hpath : s.path = top :: path) :
    s.leave = { s with frames := s.frames.tail, path := path, onPath := path } := by
  have honPath : s.onPath.filter (· != top) = path := by
    rw [h.onPath_eq, hpath, List.filter_cons_of_neg (by simp), List.filter_eq_self]
    intro node hnode
    rw [bne_iff_ne]
    rintro rfl
    exact h.top_not_mem hpath hnode
  unfold leave
  rw [hpath]
  simp only [honPath]

lemma leave (h : Shape graph s) {rest : List (List String)} (hframes : s.frames = [] :: rest) :
    Shape graph s.leave := by
  obtain ⟨top, path, hpath, -, hrest⟩ := h.exists_top hframes
  have hnodup := h.nodup
  have hwalk := h.walk
  rw [hpath] at hnodup hwalk
  rw [h.leave_eq hpath]
  exact
    { onPath_eq := rfl
      nodup := (List.nodup_cons.1 hnodup).2
      walk := hwalk.tail
      pending := by rw [hframes]; exact hrest
      path_visited := fun node hnode =>
        h.path_visited node (by rw [hpath]; exact List.mem_cons_of_mem _ hnode)
      visited_nodup := h.visited_nodup }

/-- Taking an edge of the innermost node leaves fewer edges pending. -/
lemma advance (h : Shape graph s) {target : String} {edges : List String}
    {rest : List (List String)} (hframes : s.frames = (target :: edges) :: rest) :
    Shape graph { s with frames := edges :: rest } := by
  obtain ⟨top, path, hpath, htop, hrest⟩ := h.exists_top hframes
  refine ⟨h.onPath_eq, h.nodup, h.walk, ?_, h.path_visited, h.visited_nodup⟩
  rw [hpath]
  exact List.Forall₂.cons (fun next hnext => htop next (List.mem_cons_of_mem _ hnext)) hrest

lemma record (h : Shape graph s) (entry : String) : Shape graph (s.record entry) where
  onPath_eq := by simpa using h.onPath_eq
  nodup := by simpa using h.nodup
  walk := by simpa using h.walk
  pending := by simpa using h.pending
  path_visited := by simpa using h.path_visited
  visited_nodup := by simpa using h.visited_nodup

/-- A node that has not been entered may be opened if the path is empty or has an edge to it. -/
lemma enter (h : Shape graph s) {node : String} (hnode : node ∉ s.visited)
    (hedge : ∀ top ∈ s.path.head?, graph.Edge top node) : Shape graph (s.enter graph node) where
  onPath_eq := congrArg (node :: ·) h.onPath_eq
  nodup := List.nodup_cons.2 ⟨fun hmem => hnode (h.path_visited node hmem), h.nodup⟩
  walk := List.isChain_cons.2 ⟨hedge, h.walk⟩
  pending := List.Forall₂.cons (fun _ htarget => htarget) h.pending
  path_visited := by
    intro other hother
    rcases List.mem_cons.1 hother with rfl | hother
    · exact List.mem_cons_self
    · exact List.mem_cons_of_mem _ (h.path_visited other hother)
  visited_nodup := List.nodup_cons.2 ⟨hnode, h.visited_nodup⟩

/-- A search starts at a node while no other one is open. -/
lemma enter_first (h : Shape graph s) {node : String} (hframes : s.frames = [])
    (hnode : node ∉ s.visited) : Shape graph (s.enter graph node) := by
  apply h.enter hnode
  rw [h.path_eq_nil hframes]
  simp

lemma step (h : Shape graph s) (hframes : s.frames ≠ []) : Shape graph (s.step graph) := by
  rcases step_cases graph hframes with ⟨rest, hempty, hstep⟩ |
    ⟨target, edges, rest, hcons, ⟨-, hstep⟩ | ⟨-, -, hstep⟩ | ⟨-, hvisited, hstep⟩⟩
  · rw [hstep]
    exact h.leave hempty
  · rw [hstep]
    exact (h.advance hcons).record target
  · rw [hstep]
    exact h.advance hcons
  · rw [hstep]
    refine (h.advance hcons).enter hvisited ?_
    obtain ⟨top, path, hpath, htop, -⟩ := h.exists_top hcons
    simp only [hpath, List.head?_cons, Option.mem_some_iff, forall_eq']
    exact htop target List.mem_cons_self

end Shape

/-! ### The cycles found -/

/-- The cycles kept are cycles of the graph without repeated nodes, each in its canonical form and
once. -/
structure Found (graph : Adjacency) (s : Search) : Prop where
  /-- They are closed walks. -/
  closed : ∀ cycle ∈ s.cycles, IsClosedWalk graph.Edge cycle
  /-- They repeat no node. -/
  simple : ∀ cycle ∈ s.cycles, cycle.Nodup
  /-- They start at their smallest node. -/
  canonical : ∀ cycle ∈ s.cycles, StartsSmallest cycle
  /-- No cycle is kept twice. -/
  nodup : s.cycles.Nodup

namespace Found

lemma init (graph : Adjacency) : Found graph {} where
  closed := fun _ h => absurd h List.not_mem_nil
  simple := fun _ h => absurd h List.not_mem_nil
  canonical := fun _ h => absurd h List.not_mem_nil
  nodup := List.nodup_nil

lemma congr {s' : Search} (h : Found graph s) (hcycles : s'.cycles = s.cycles) :
    Found graph s' := by
  refine ⟨?_, ?_, ?_, ?_⟩ <;> rw [hcycles]
  · exact h.closed
  · exact h.simple
  · exact h.canonical
  · exact h.nodup

/-- An edge from the innermost node back into the path closes a cycle of the graph. -/
lemma record (h : Found graph s) (hshape : Shape graph s) {top entry : String}
    {path : List String} (hpath : s.path = top :: path) (hentry : entry ∈ s.path)
    (hback : graph.Edge top entry) : Found graph (s.record entry) := by
  have hturn := isRotated_canonical (stretch entry s.path)
  have hwalk : IsClosedWalk graph.Edge (stretch entry s.path) := by
    have hchain := hshape.walk
    rw [hpath] at hchain hentry ⊢
    exact isClosedWalk_stretch hchain hentry hback
  have hsimple : (stretch entry s.path).Nodup := by
    have hnodup := hshape.nodup
    rw [hpath] at hnodup hentry ⊢
    exact nodup_stretch hnodup hentry
  refine ⟨?_, ?_, ?_, ?_⟩
  · intro cycle hcycle
    rcases (mem_record_cycles hentry).1 hcycle with hcycle | rfl
    · exact h.closed cycle hcycle
    · exact hwalk.of_isRotated hturn
  · intro cycle hcycle
    rcases (mem_record_cycles hentry).1 hcycle with hcycle | rfl
    · exact h.simple cycle hcycle
    · exact hturn.nodup_iff.1 hsimple
  · intro cycle hcycle
    rcases (mem_record_cycles hentry).1 hcycle with hcycle | rfl
    · exact h.canonical cycle hcycle
    · exact startsSmallest_canonical _
  · rw [record_cycles hentry]
    split_ifs with hknown
    · exact h.nodup
    · exact List.nodup_append.2 ⟨h.nodup, List.nodup_singleton _, by
        intro a ha b hb
        rw [List.mem_singleton.1 hb]
        rintro rfl
        exact hknown ha⟩

lemma step (h : Found graph s) (hshape : Shape graph s) (hframes : s.frames ≠ []) :
    Found graph (s.step graph) := by
  rcases step_cases graph hframes with ⟨rest, hempty, hstep⟩ |
    ⟨target, edges, rest, hcons, ⟨htarget, hstep⟩ | ⟨-, -, hstep⟩ | ⟨-, -, hstep⟩⟩
  · obtain ⟨top, path, hpath, -⟩ := hshape.exists_top hempty
    rw [hstep, hshape.leave_eq hpath]
    exact h.congr rfl
  · obtain ⟨top, path, hpath, htop, -⟩ := hshape.exists_top hcons
    have hadvanced : Found graph { s with frames := edges :: rest } := h.congr rfl
    rw [hshape.onPath_eq] at htarget
    rw [hstep]
    exact hadvanced.record (hshape.advance hcons) hpath htarget (htop target List.mem_cons_self)
  · rw [hstep]
    exact h.congr rfl
  · rw [hstep]
    exact h.congr rfl

end Found

/-! ### The whole search -/

/-- The search that has been started from every node. -/
def complete (graph : Adjacency) : Search := graph.nodes.foldl (searchFrom graph) {}

lemma complete_shape_found (graph : Adjacency) :
    Shape graph (complete graph) ∧ Found graph (complete graph) := by
  refine (foldl_searchFrom_induction (motive := fun s => Shape graph s ∧ Found graph s)
    ?_ ?_ graph.nodes ⟨Shape.init graph, Found.init graph⟩ rfl).1
  · rintro s node hframes hnode ⟨hshape, hfound⟩
    exact ⟨hshape.enter_first hframes hnode, hfound.congr rfl⟩
  · rintro s hframes ⟨hshape, hfound⟩
    exact ⟨hshape.step hframes, hfound.step hshape hframes⟩

end Cycle.Search

namespace Cycle

lemma detect_closed {graph : Adjacency} {cycle : List String} (h : cycle ∈ detect graph) :
    IsClosedWalk graph.Edge cycle :=
  (Search.complete_shape_found graph).2.closed cycle h

lemma detect_simple {graph : Adjacency} {cycle : List String} (h : cycle ∈ detect graph) :
    cycle.Nodup :=
  (Search.complete_shape_found graph).2.simple cycle h

lemma detect_startsSmallest {graph : Adjacency} {cycle : List String}
    (h : cycle ∈ detect graph) : StartsSmallest cycle :=
  (Search.complete_shape_found graph).2.canonical cycle h

/-- No two cycles found are turns of one another: each is the only canonical turn of itself. -/
lemma detect_pairwise_not_isRotated (graph : Adjacency) :
    (detect graph).Pairwise fun a b => ¬ a ~r b := by
  have hfound := (Search.complete_shape_found graph).2
  refine List.Pairwise.imp_of_mem ?_ hfound.nodup
  intro a b ha hb hne hturn
  exact hne (StartsSmallest.eq_of_isRotated hturn (hfound.simple a ha) (hfound.canonical a ha)
    (hfound.canonical b hb))

end Cycle

end Strata

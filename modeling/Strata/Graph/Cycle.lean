import Strata.Ascending

/-!
# Cycles of a graph

A depth-first search that keeps its open nodes on an explicit path.  Every edge back to a node of
the path closes a cycle: the stretch of the path from that node on.  Cycles are turned so that they
start at their smallest node, and each one is kept once.

The search starts from every node that has not been entered yet, in the order of the graph, and
never enters a node twice.  So it need not find every cycle, but it finds one whenever there is
one.
-/

namespace Strata

/-- The successors of each node. -/
abbrev Adjacency := List (String × List String)

namespace Adjacency

/-- The successors of a node; a node that is not listed has none. -/
def successors (graph : Adjacency) (node : String) : List String :=
  ((graph.find? fun entry => entry.1 == node).map Prod.snd).getD []

/-- The nodes listed. -/
def nodes (graph : Adjacency) : List String := graph.map Prod.fst

/-- What it costs at most to search from the nodes that are not yet visited: two for an edge and
one for a node. -/
def unvisitedWeight (visited : List String) : Adjacency → Nat
  | [] => 0
  | (node, successors) :: rest =>
    (if visited.contains node then 0 else 2 * successors.length + 1) +
      unvisitedWeight visited rest

end Adjacency

namespace Cycle

/-- The smallest of some strings, the first one given apart. -/
def smallest (first : String) (others : List String) : String :=
  others.foldl (fun least node => if node < least then node else least) first

/-- A cycle turned so that it starts at its smallest node. -/
def canonical : List String → List String
  | [] => []
  | first :: others =>
    let start := smallest first others
    let cycle := first :: others
    cycle.dropWhile (· != start) ++ cycle.takeWhile (· != start)

/-- How far a search has come. -/
structure Search where
  /-- For each node of the path, innermost first, the successors not yet looked at. -/
  frames : List (List String) := []
  /-- The nodes from the innermost open one back to the start. -/
  path : List String := []
  /-- The nodes of the path, as a set. -/
  onPath : List String := []
  /-- The nodes entered so far. -/
  visited : List String := []
  /-- The cycles found, in order. -/
  cycles : List (List String) := []
deriving DecidableEq, Repr

namespace Search

/-- Opens a node. -/
def enter (graph : Adjacency) (node : String) (s : Search) : Search where
  frames := graph.successors node :: s.frames
  path := node :: s.path
  onPath := node :: s.onPath
  visited := node :: s.visited
  cycles := s.cycles

/-- Closes the innermost node. -/
def leave (s : Search) : Search :=
  match s.path with
  | [] => { s with frames := s.frames.tail }
  | node :: rest =>
    { s with frames := s.frames.tail, path := rest, onPath := s.onPath.filter (· != node) }

/-- The stretch of the path from `entry` to its inner end. -/
def stretch (entry : String) (path : List String) : List String :=
  (path.takeWhile (· != entry) ++ [entry]).reverse

/-- Keeps the cycle that an edge back to `entry` closes, unless it is known. -/
def record (entry : String) (s : Search) : Search :=
  if s.path.contains entry then
    let cycle := canonical (stretch entry s.path)
    if s.cycles.contains cycle then s else { s with cycles := s.cycles ++ [cycle] }
  else s

/-- Looks at the next edge of the innermost node, or closes it if there is none. -/
def step (graph : Adjacency) (s : Search) : Search :=
  match s.frames with
  | [] => s
  | [] :: _ => s.leave
  | (target :: edges) :: rest =>
    let s := { s with frames := edges :: rest }
    if s.onPath.contains target then s.record target
    else if s.visited.contains target then s
    else s.enter graph target

/-- What the frames can still cost: two for an edge and one for a frame. -/
def framesWeight : List (List String) → Nat
  | [] => 0
  | edges :: rest => 2 * edges.length + 1 + framesWeight rest

/-- What a search can still cost. -/
def weight (graph : Adjacency) (s : Search) : Nat :=
  framesWeight s.frames + graph.unvisitedWeight s.visited

end Search

/-- Visiting one more node makes what is left to search no dearer. -/
theorem unvisitedWeight_cons_le (graph : Adjacency) (visited : List String) (node : String) :
    graph.unvisitedWeight (node :: visited) ≤ graph.unvisitedWeight visited := by
  induction graph with
  | nil => exact Nat.le_refl _
  | cons entry rest ih =>
    obtain ⟨key, successors⟩ := entry
    simp only [Adjacency.unvisitedWeight, List.contains_cons]
    cases hvisited : visited.contains key with
    | true => simpa using ih
    | false =>
      refine Nat.add_le_add ?_ ih
      split
      · exact Nat.zero_le _
      · exact Nat.le_refl _

/-- Entering a node that is not visited takes the cost of its edges off what is left to search. -/
theorem unvisitedWeight_enter (graph : Adjacency) (visited : List String) (node : String)
    (h : visited.contains node = false) :
    graph.unvisitedWeight (node :: visited) + 2 * (graph.successors node).length ≤
      graph.unvisitedWeight visited := by
  induction graph with
  | nil => exact Nat.le_refl _
  | cons entry rest ih =>
    obtain ⟨key, successors⟩ := entry
    simp only [Adjacency.unvisitedWeight, List.contains_cons]
    cases hkey : key == node with
    | true =>
      -- the node itself: its edges are paid for by its own entry
      have hrest := unvisitedWeight_cons_le rest visited node
      have hedges : Adjacency.successors ((key, successors) :: rest) node = successors := by
        simp [Adjacency.successors, hkey]
      rw [beq_iff_eq.1 hkey] at hedges ⊢
      rw [hedges, h, Bool.true_or, if_pos rfl, if_neg Bool.false_ne_true]
      omega
    | false =>
      -- another node costs what it cost before
      have hedges : Adjacency.successors ((key, successors) :: rest) node =
          Adjacency.successors rest node := by
        simp [Adjacency.successors, hkey]
      rw [hedges, Bool.false_or]
      omega

/-- Every step makes the rest of the search cheaper. -/
theorem Search.step_weight_lt (graph : Adjacency) (s : Search) (h : s.frames ≠ []) :
    (s.step graph).weight graph < s.weight graph := by
  obtain ⟨frames, path, onPath, visited, cycles⟩ := s
  match frames, h with
  | [] :: rest, _ =>
    cases path <;> simp [step, leave, weight, framesWeight]
  | (target :: edges) :: rest, _ =>
    simp only [step]
    split
    · simp only [record]
      split
      · split <;> simp [weight, framesWeight]
      · simp [weight, framesWeight]
    · split
      · simp [weight, framesWeight]
      · rename_i hv
        have := unvisitedWeight_enter graph visited target (by simpa using hv)
        simp [weight, framesWeight, enter]
        omega

namespace Search

/-- Goes on until no node is open. -/
def run (graph : Adjacency) (s : Search) : Search :=
  if s.frames = [] then s else run graph (s.step graph)
termination_by s.weight graph
decreasing_by exact step_weight_lt graph s ‹_›

/-- Searches from a node unless it has been entered before. -/
def searchFrom (graph : Adjacency) (s : Search) (node : String) : Search :=
  if s.visited.contains node then s else run graph (s.enter graph node)

end Search

/-- The cycles found in a graph, in the order in which they are found. -/
def detect (graph : Adjacency) : List (List String) :=
  (graph.nodes.foldl (Search.searchFrom graph) {}).cycles

end Cycle

end Strata

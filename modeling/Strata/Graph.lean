import Strata.Ascending
import Strata.Dependency
import Strata.Ecosystem
import Strata.Layer.Assignment
import Strata.Graph.Cycle

/-!
# The graph of modules

The modules of an analysis with the layers they are checked against, and the graph of the
dependencies that lead from one of them to another.
-/

namespace Strata

/-- What the checks look at. -/
structure ModuleGraph where
  /-- The ecosystem of the modules. -/
  ecosystem : Ecosystem
  /-- The layers in the order of their declaration. -/
  layers : List Layer
  /-- The modules. -/
  modules : List SourceModule
deriving Repr

namespace ModuleGraph

/-- The module at a path; of several, the last one. -/
def module? (graph : ModuleGraph) (path : String) : Option SourceModule :=
  graph.modules.reverse.find? fun m => m.path == path

/-- The layer of the module at a path. -/
def layerAt? (graph : ModuleGraph) (path : String) : Option String :=
  (graph.module? path).bind SourceModule.layer

/-- The declaration of a layer; of several, the first one. -/
def layer? (graph : ModuleGraph) (name : String) : Option Layer :=
  Layer.find? graph.layers name

/-- The dependencies that lead from the modules at one path to a module at another. -/
def linksFrom (graph : ModuleGraph) (path : String) : List Dependency :=
  (graph.modules.filter fun m => m.path == path).flatMap fun m =>
    m.dependencies.filter fun d =>
      d.isResolved && d.target != path && (graph.module? d.target).isSome

/-- Which modules each module depends on, both in ascending order of their paths. -/
def adjacency (graph : ModuleGraph) : Adjacency :=
  (Ascending.strings (graph.modules.map SourceModule.path)).map fun path =>
    (path, Ascending.strings ((graph.linksFrom path).map Dependency.target))

/-- The first line on which a module imports another one. -/
def linkLine (graph : ModuleGraph) (source target : String) : Nat :=
  let lines := ((graph.linksFrom source).filter fun d => d.target == target).map Dependency.line
  lines.min?.getD 1

end ModuleGraph

end Strata

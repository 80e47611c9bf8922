import Strata.Check
import Strata.Graph

/-!
# Checks of single imports

Imports that lead nowhere, and imports from one layer into another that is not on its allow-list.
-/

namespace Strata.Check

open Strata.Text

/-- Reports every dependency that looks local and leads to no analysed file. -/
def unresolvedImports (severity : Severity) (graph : ModuleGraph) : List Violation :=
  ((graph.modules.flatMap SourceModule.dependencies).filter Dependency.isUnresolved).map fun d =>
    { code := unresolvedImport.code
      rule := unresolvedImport.name
      severity := severity
      file := d.source
      line := d.line
      message := "Unresolved import '" ++ d.target ++ "'"
      suggestion := "Check the import path, or include the target file in the analyzed root" }

/-- The layers on an allow-list in words. -/
def allowedText (allow : List String) : String :=
  if allow.isEmpty then "nothing" else joinWith ", " allow

/-- The layer that a dependency of a layer leads to, if the layer must not depend on it. -/
def forbiddenLayer? (graph : ModuleGraph) (layer : Layer) (d : Dependency) : Option String :=
  if d.isResolved then
    match graph.layerAt? d.target with
    | some target => if target = layer.name ∨ layer.allows target then none else some target
    | none => none
  else none

/-- The report on a dependency that leads from a layer to one it must not depend on. -/
def wrongDirection (severity : Severity) (layer : Layer) (m : SourceModule) (d : Dependency)
    (target : String) : Violation where
  code := dependencyDirection.code
  rule := dependencyDirection.name
  severity := severity
  file := m.path
  line := d.line
  message :=
    layer.name ++ " -> " ++ target ++ " dependency not allowed: '" ++ m.path ++ "' imports '" ++
      d.target ++ "'"
  suggestion := "Layer '" ++ layer.name ++ "' may depend on: " ++ allowedText layer.allow

/-- Reports every dependency of a module that its layer is not allowed to have. -/
def wrongDirections (severity : Severity) (graph : ModuleGraph) (m : SourceModule) :
    List Violation :=
  match m.layer.bind graph.layer? with
  | none => []
  | some layer =>
    m.dependencies.filterMap fun d =>
      (forbiddenLayer? graph layer d).map (wrongDirection severity layer m d)

/-- Reports every dependency that a layer is not allowed to have. -/
def dependencyDirections (severity : Severity) (graph : ModuleGraph) : List Violation :=
  graph.modules.flatMap (wrongDirections severity graph)

end Strata.Check

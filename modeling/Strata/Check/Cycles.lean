import Strata.Check
import Strata.Graph

/-!
# The check for circular dependencies
-/

namespace Strata.Check

open Strata.Text

/-- The report on a cycle of modules: it stands where the first module imports the second. -/
def circular (severity : Severity) (graph : ModuleGraph) : List String → Option Violation
  | [] => none
  | first :: others =>
    some
      { code := circularDependency.code
        rule := circularDependency.name
        severity := severity
        file := first
        line := graph.linkLine first (others.head?.getD first)
        message := "Circular dependency: " ++ joinWith " -> " (first :: others ++ [first])
        suggestion :=
          "Break the cycle by extracting the shared code or inverting one dependency" }

/-- Reports the cycles found among the modules. -/
def circularDependencies (severity : Severity) (graph : ModuleGraph) : List Violation :=
  (Cycle.detect graph.adjacency).filterMap (circular severity graph)

end Strata.Check

import Strata.Check
import Strata.Graph
import Strata.Layer.Role
import Strata.Text.Lowercase

/-!
# The check for misplaced business logic

An exported name that contains a telling word is taken for business logic, which has no place in
a presentation layer.
-/

namespace Strata.Check

open Strata.Text

/-- The words that mark an exported name as business logic, in small letters. -/
def businessWords : List String :=
  ["calculate", "validate", "process", "transform", "business", "rule", "logic", "compute",
    "workflow"]

/-- The first of some words that occurs in a name, whatever the case of its letters. -/
def tellingWord? (words : List String) (name : String) : Option String :=
  let small := lowercase name
  words.find? fun word => occursIn word small

/-- Reports the exported names of a presentation module that contain one of the words. -/
def misplacedIn (words : List String) (severity : Severity) (m : SourceModule) : List Violation :=
  match m.layer with
  | none => []
  | some layer =>
    if Role.ofLayer layer ≠ .presentation then []
    else
      (m.exports.filter fun entry => entry.name != "default").filterMap fun entry =>
        (tellingWord? words entry.name).map fun word =>
          { code := businessLogicPlacement.code
            rule := businessLogicPlacement.name
            severity := severity
            file := m.path
            line := entry.line
            message :=
              "'" ++ entry.name ++ "' looks like business logic ('" ++ word ++
                "') in presentation layer '" ++ layer ++ "'"
            suggestion := "Move business rules into a domain or state-holder layer" }

/-- Reports business logic that presentation layers export. -/
def businessLogicPlacements (words : List String) (severity : Severity) (graph : ModuleGraph) :
    List Violation :=
  graph.modules.flatMap (misplacedIn words severity)

end Strata.Check

import Strata.Check.AntiPattern
import Strata.Check.Cycles
import Strata.Check.Imports
import Strata.Check.Placement

/-!
# Rules

A rule is a check with its settings.  Running some rules puts their reports one after another.
-/

namespace Strata

/-- A check with its settings. -/
structure Rule where
  /-- The check. -/
  check : Check
  /-- How serious its violations are. -/
  severity : Severity
  /-- The words that mark business logic; only the check for its placement looks at them. -/
  words : List String
deriving DecidableEq, Repr

namespace Rule

/-- A check with its usual settings. -/
def ofCheck (check : Check) : Rule :=
  ⟨check, check.severity, Check.businessWords⟩

/-- What a rule reports. -/
def violations (graph : ModuleGraph) (rule : Rule) : List Violation :=
  match rule.check with
  | .unresolvedImport => Check.unresolvedImports rule.severity graph
  | .dependencyDirection => Check.dependencyDirections rule.severity graph
  | .circularDependency => Check.circularDependencies rule.severity graph
  | .businessLogicPlacement => Check.businessLogicPlacements rule.words rule.severity graph
  | .architectureAntiPattern => Check.antiPatterns rule.severity graph

/-- What some rules report, rule by rule. -/
def runAll (rules : List Rule) (graph : ModuleGraph) : List Violation :=
  rules.flatMap (violations graph)

/-- The checks with their usual settings, as far as they are switched on. -/
def switchedOn (isOn : String → Bool) : List Rule :=
  (Check.all.filter fun check => isOn check.name).map ofCheck

end Rule

/-- The result of running some rules. -/
def Summary.ofRules (rules : List Rule) (graph : ModuleGraph) : Summary where
  violations := Rule.runAll rules graph
  modules := graph.modules.length
  dependencies := (graph.modules.flatMap SourceModule.dependencies).length

end Strata

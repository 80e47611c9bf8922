import Strata.Violation

/-!
# The checks

The five checks, with the code and name under which each is known.
-/

namespace Strata

/-- A check of the module graph. -/
inductive Check where
  /-- Imports that look local lead to a file. -/
  | unresolvedImport
  /-- Layers depend only on the layers that they are allowed to. -/
  | dependencyDirection
  /-- Modules do not depend on each other in a circle. -/
  | circularDependency
  /-- Presentation layers export no business logic. -/
  | businessLogicPlacement
  /-- Modules use no libraries or modules that their layer's role rules out. -/
  | architectureAntiPattern
deriving DecidableEq, Repr

namespace Check

/-- All checks, in the order in which they run. -/
def all : List Check :=
  [unresolvedImport, dependencyDirection, circularDependency, businessLogicPlacement,
    architectureAntiPattern]

/-- The name that switches a check on and off. -/
def name : Check → String
  | unresolvedImport => "unresolved-import"
  | dependencyDirection => "dependency-direction"
  | circularDependency => "circular-dependency"
  | businessLogicPlacement => "business-logic-placement"
  | architectureAntiPattern => "architecture-anti-pattern"

/-- The check of this name. -/
def ofName? (text : String) : Option Check :=
  all.find? fun check => check.name == text

/-- The code of a check. -/
def code : Check → String
  | unresolvedImport => "LL001"
  | dependencyDirection => "LL002"
  | circularDependency => "LL003"
  | businessLogicPlacement => "LL004"
  | architectureAntiPattern => "LL005"

/-- What a check does. -/
def description : Check → String
  | unresolvedImport => "Reports imports that look internal but match no analyzed file"
  | dependencyDirection => "Forbids dependencies on layers missing from the allow-list"
  | circularDependency => "Reports circular dependencies between local modules"
  | businessLogicPlacement => "Flags business-logic exports in presentation layers"
  | architectureAntiPattern => "Detects ecosystem-specific layering anti-patterns"

/-- How serious its violations are unless said otherwise. -/
def severity : Check → Severity
  | unresolvedImport => .info
  | dependencyDirection => .error
  | circularDependency => .warning
  | businessLogicPlacement => .warning
  | architectureAntiPattern => .warning

end Check

end Strata

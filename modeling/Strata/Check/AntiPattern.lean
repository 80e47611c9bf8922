import Strata.Check
import Strata.Check.Profile
import Strata.Graph
import Strata.Layer.Role

/-!
# The check for anti-patterns

What a module may use follows from the role of its layer: presentation does not access data, a
state holder knows nothing of the views, and the domain is free of platform frameworks.  Views do
not contain networking, decoding or arithmetic.
-/

namespace Strata.Check

/-- Something that a module uses and should not. -/
inductive Misuse where
  /-- Presentation accesses data. -/
  | dataAccess
  /-- A state holder depends on views. -/
  | views
  /-- The domain depends on the platform. -/
  | platform
deriving DecidableEq, Repr

namespace Misuse

/-- What is said about a misuse of `target`. -/
def message (target : String) : Misuse → String
  | dataAccess => "Presentation module imports data-access dependency '" ++ target ++ "'"
  | views => "State holder depends on presentation code '" ++ target ++ "'"
  | platform => "Domain module imports platform framework '" ++ target ++ "'"

/-- What to do instead. -/
def suggestion : Misuse → String
  | dataAccess => "Fetch and persist data through a view model, store or repository interface"
  | views => "Expose state for the view to observe instead of referencing UI types"
  | platform => "Keep the domain framework-free; put platform code behind an interface"

end Misuse

/-- The role of the layer of the module that a dependency leads to. -/
def targetRole? (graph : ModuleGraph) (d : Dependency) : Option Role :=
  (graph.layerAt? d.target).map Role.ofLayer

/-- The misuse that a dependency of a module with this role is, if it is one. -/
def misuse? (graph : ModuleGraph) (role : Role) (d : Dependency) : Option Misuse :=
  let profile := Profile.ofEcosystem graph.ecosystem
  let uses (patterns : List String) : Bool :=
    (Profile.firstCovering? d.target patterns).isSome
  match role with
  | .presentation =>
    if (if d.isResolved then targetRole? graph d == some .data else uses profile.dataAccess) then
      some .dataAccess
    else none
  | .stateHolder =>
    if (if d.isResolved then targetRole? graph d == some .presentation
        else uses profile.presentation) then
      some .views
    else none
  | .domain => if !d.isResolved && uses profile.platform then some .platform else none
  | .data => none
  | .other => none

/-- A report of this check. -/
def antiPattern (severity : Severity) (ecosystem : Ecosystem) (file : String) (line : Nat)
    (message suggestion : String) : Violation where
  code := architectureAntiPattern.code
  rule := ecosystem.antiPatternRule
  severity := severity
  file := file
  line := line
  message := message
  suggestion := suggestion

/-- The report on a suspicious line of a view. -/
def suspicious (severity : Severity) (ecosystem : Ecosystem) (file : String) (s : Signal) :
    Violation :=
  antiPattern severity ecosystem file s.line
    ("View '" ++ s.scope ++ "' contains " ++ s.kind.describe ++ ": " ++ s.text)
    "Move this logic into a view model or service and bind the result"

/-- Whether views may stand in a layer of this role. -/
def holdsViews (role : Role) : Bool :=
  role == .presentation || role == .other

/-- Reports the anti-patterns of a module, its dependencies before its suspicious lines. -/
def antiPatternsIn (severity : Severity) (graph : ModuleGraph) (m : SourceModule) :
    List Violation :=
  let role := (m.layer.map Role.ofLayer).getD .other
  let misuses := m.dependencies.filterMap fun d =>
    (misuse? graph role d).map fun misuse =>
      antiPattern severity graph.ecosystem m.path d.line (misuse.message d.target)
        misuse.suggestion
  let lines := if holdsViews role then m.signals else []
  misuses ++ lines.map (suspicious severity graph.ecosystem m.path)

/-- Reports the anti-patterns of all modules. -/
def antiPatterns (severity : Severity) (graph : ModuleGraph) : List Violation :=
  graph.modules.flatMap (antiPatternsIn severity graph)

end Strata.Check

import Mathlib.Tactic.Common
import Strata.Check.Rule

/-!
# What reports carry

Every report of a rule carries the code of its check and the severity that the rule is set to.  The
codes are different, so the reports of some checks can be picked out of the reports of all rules by
their codes (`filter_code_runAll`), and with the usual settings only one check reports errors
(`exists_error_iff`).
-/

namespace Strata

namespace Check

variable {severity : Severity} {graph : ModuleGraph} {v : Violation}

/-- The name under which a check reports, which is its own but for one check. -/
def reportedAs (ecosystem : Ecosystem) : Check → String
  | architectureAntiPattern => ecosystem.antiPatternRule
  | check => check.name

/-- The violation has the code of the check, its name for this ecosystem and this severity. -/
structure Carries (check : Check) (severity : Severity) (ecosystem : Ecosystem) (v : Violation) :
    Prop where
  /-- The code. -/
  code : v.code = check.code
  /-- The name. -/
  rule : v.rule = check.reportedAs ecosystem
  /-- The severity. -/
  severity : v.severity = severity

lemma code_injective : Function.Injective code := by
  intro a b h
  cases a <;> cases b <;> first | rfl | exact absurd h (by decide)

lemma severity_eq_error_iff (check : Check) :
    check.severity = .error ↔ check = .dependencyDirection := by
  cases check <;> decide

lemma carries_of_mem_unresolvedImports (h : v ∈ unresolvedImports severity graph) :
    Carries .unresolvedImport severity graph.ecosystem v := by
  obtain ⟨d, -, rfl⟩ := List.mem_map.1 h
  exact ⟨rfl, rfl, rfl⟩

lemma carries_of_mem_dependencyDirections (h : v ∈ dependencyDirections severity graph) :
    Carries .dependencyDirection severity graph.ecosystem v := by
  obtain ⟨m, -, hv⟩ := List.mem_flatMap.1 h
  unfold wrongDirections at hv
  split at hv
  · exact absurd hv List.not_mem_nil
  · obtain ⟨d, -, hd⟩ := List.mem_filterMap.1 hv
    obtain ⟨target, -, rfl⟩ := Option.map_eq_some_iff.1 hd
    exact ⟨rfl, rfl, rfl⟩

lemma carries_of_mem_circularDependencies (h : v ∈ circularDependencies severity graph) :
    Carries .circularDependency severity graph.ecosystem v := by
  obtain ⟨cycle, -, hcycle⟩ := List.mem_filterMap.1 h
  cases cycle with
  | nil => exact absurd hcycle (by simp [circular])
  | cons first others =>
    rw [circular, Option.some_inj] at hcycle
    rw [← hcycle]
    exact ⟨rfl, rfl, rfl⟩

lemma carries_of_mem_businessLogicPlacements {words : List String}
    (h : v ∈ businessLogicPlacements words severity graph) :
    Carries .businessLogicPlacement severity graph.ecosystem v := by
  obtain ⟨m, -, hv⟩ := List.mem_flatMap.1 h
  unfold misplacedIn at hv
  split at hv
  · exact absurd hv List.not_mem_nil
  · split at hv
    · exact absurd hv List.not_mem_nil
    · obtain ⟨entry, -, hentry⟩ := List.mem_filterMap.1 hv
      obtain ⟨word, -, rfl⟩ := Option.map_eq_some_iff.1 hentry
      exact ⟨rfl, rfl, rfl⟩

lemma carries_of_mem_antiPatterns (h : v ∈ antiPatterns severity graph) :
    Carries .architectureAntiPattern severity graph.ecosystem v := by
  obtain ⟨m, -, hv⟩ := List.mem_flatMap.1 h
  rcases List.mem_append.1 hv with hmisuse | hline
  · obtain ⟨d, -, hd⟩ := List.mem_filterMap.1 hmisuse
    obtain ⟨misuse, -, rfl⟩ := Option.map_eq_some_iff.1 hd
    exact ⟨rfl, rfl, rfl⟩
  · obtain ⟨signal, -, rfl⟩ := List.mem_map.1 hline
    exact ⟨rfl, rfl, rfl⟩

end Check

namespace Rule

variable {graph : ModuleGraph} {v : Violation}

lemma carries_of_mem_violations {rule : Rule} (h : v ∈ rule.violations graph) :
    Check.Carries rule.check rule.severity graph.ecosystem v := by
  obtain ⟨check, severity, words⟩ := rule
  cases check with
  | unresolvedImport => exact Check.carries_of_mem_unresolvedImports h
  | dependencyDirection => exact Check.carries_of_mem_dependencyDirections h
  | circularDependency => exact Check.carries_of_mem_circularDependencies h
  | businessLogicPlacement => exact Check.carries_of_mem_businessLogicPlacements h
  | architectureAntiPattern => exact Check.carries_of_mem_antiPatterns h

/-- A choice by code keeps all reports of a rule, or none. -/
lemma filter_code_violations (keep : String → Bool) (rule : Rule) :
    ((rule.violations graph).filter fun v => keep v.code) =
      if keep rule.check.code then rule.violations graph else [] := by
  split_ifs with hkeep
  · rw [List.filter_eq_self]
    intro v hv
    rw [(carries_of_mem_violations hv).code, hkeep]
  · rw [List.filter_eq_nil_iff]
    intro v hv
    rwa [(carries_of_mem_violations hv).code]

/-- Choosing reports by code is choosing the rules that make them. -/
lemma filter_code_runAll (keep : String → Bool) (rules : List Rule) (graph : ModuleGraph) :
    ((runAll rules graph).filter fun v => keep v.code) =
      runAll (rules.filter fun rule => keep rule.check.code) graph := by
  induction rules with
  | nil => rfl
  | cons rule rules ih =>
    unfold runAll at ih ⊢
    rw [List.flatMap_cons, List.filter_append, ih, filter_code_violations, List.filter_cons]
    split_ifs
    · rw [List.flatMap_cons]
    · rw [List.nil_append]

/-- Among the rules that are switched on there is at most one for each check. -/
lemma filter_check_switchedOn (check : Check) (isOn : String → Bool) :
    ((switchedOn isOn).filter fun rule => rule.check.code == check.code) =
      if isOn check.name then [ofCheck check] else [] := by
  have hall : (Check.all.filter fun other => other.code == check.code) = [check] := by
    cases check <;> rfl
  rw [switchedOn, List.filter_map, List.filter_filter]
  have hswap : (Check.all.filter fun other =>
      ((fun rule : Rule => rule.check.code == check.code) ∘ ofCheck) other && isOn other.name) =
      (Check.all.filter fun other => other.code == check.code).filter
        fun other => isOn other.name := by
    rw [List.filter_filter]
    exact List.filter_congr fun other _ => Bool.and_comm _ _
  rw [hswap, hall, List.filter_cons]
  split_ifs <;> rfl

/-- The reports with the code of a check are those of the check, if it is switched on. -/
lemma filter_code_runAll_switchedOn (check : Check) (isOn : String → Bool) (graph : ModuleGraph) :
    ((runAll (switchedOn isOn) graph).filter fun v => v.code == check.code) =
      if isOn check.name then (ofCheck check).violations graph else [] := by
  rw [filter_code_runAll (· == check.code), filter_check_switchedOn]
  split_ifs
  · exact List.flatMap_singleton _ _
  · rfl

/-- With the usual settings, an error is a report of the check for directions. -/
lemma exists_error_iff (isOn : String → Bool) (graph : ModuleGraph) :
    (∃ v ∈ runAll (switchedOn isOn) graph, v.severity = .error) ↔
      isOn Check.dependencyDirection.name = true ∧
        Check.dependencyDirections .error graph ≠ [] := by
  constructor
  · rintro ⟨v, hv, herror⟩
    obtain ⟨rule, hrule, hv⟩ := List.mem_flatMap.1 hv
    obtain ⟨check, hcheck, rfl⟩ := List.mem_map.1 hrule
    have hon : isOn check.name = true := (List.mem_filter.1 hcheck).2
    have hseverity : check.severity = .error := by
      rw [← herror]
      exact (carries_of_mem_violations hv).severity.symm
    rw [Check.severity_eq_error_iff] at hseverity
    subst hseverity
    exact ⟨hon, List.ne_nil_of_mem hv⟩
  · rintro ⟨hon, hreports⟩
    obtain ⟨v, hv⟩ := List.exists_mem_of_ne_nil _ hreports
    refine ⟨v, List.mem_flatMap.2 ⟨ofCheck .dependencyDirection, ?_, hv⟩,
      (Check.carries_of_mem_dependencyDirections hv).severity⟩
    exact List.mem_map_of_mem (List.mem_filter.2 ⟨by decide, hon⟩)

end Rule

end Strata

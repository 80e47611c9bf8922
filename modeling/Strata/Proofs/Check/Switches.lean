import Mathlib.Data.String.Basic
import Strata.Analysis
import Strata.Proofs.Ascending
import Strata.Proofs.Check.Reports

/-!
# Switching checks off

A check that is switched off does not run, and no check looks at what another one reports.  So
switching some checks off takes their reports out of the report and leaves the others as they are,
in the same order (`violations_switchOff`).
-/

namespace Strata

namespace Config

/-- Switches some checks off. -/
def switchOff (config : Config) (off : List Check) : Config :=
  off.foldl (fun config check => config.switch check.name false) config

/-! ### Reading a switch -/

lemma eq_of_switchBefore_eq_false {a b : String × Bool} (hab : switchBefore a b = false)
    (hba : switchBefore b a = false) : a.1 = b.1 :=
  Ascending.strictTotal_stringBefore.total a.1 b.1 hab hba

lemma lookup_cons_ite (key : String) (value : Bool) (entries : List (String × Bool))
    (name : String) :
    ((key, value) :: entries).lookup name =
      if name = key then some value else entries.lookup name := by
  rw [List.lookup_cons]
  split_ifs with hname
  · rw [beq_iff_eq.2 hname]
  · rw [beq_false_of_ne hname]

/-- A switch put among the switches of other checks is found, and all others are still found. -/
lemma lookup_insert {entries : List (String × Bool)} {check : String}
    (hnew : ∀ entry ∈ entries, entry.1 ≠ check) (on : Bool) (name : String) :
    (Ascending.insert switchBefore (check, on) entries).lookup name =
      if name = check then some on else entries.lookup name := by
  induction entries with
  | nil => exact lookup_cons_ite check on [] name
  | cons entry entries ih =>
    obtain ⟨key, value⟩ := entry
    have hkey : key ≠ check := hnew (key, value) List.mem_cons_self
    have hrest := ih fun other hother => hnew other (List.mem_cons_of_mem _ hother)
    rw [Ascending.insert]
    by_cases hbefore : switchBefore (check, on) (key, value) = true
    · rw [if_pos hbefore, lookup_cons_ite]
    · by_cases hafter : switchBefore (key, value) (check, on) = true
      · rw [if_neg hbefore, if_pos hafter, lookup_cons_ite, hrest, lookup_cons_ite]
        by_cases hname : name = check
        · simp [hname, Ne.symm hkey]
        · simp [hname]
      · -- only a switch of the same check would be dropped
        have heq : check = key :=
          eq_of_switchBefore_eq_false (by simpa using hbefore) (by simpa using hafter)
        exact absurd heq.symm hkey

lemma lookup_filter_ne {entries : List (String × Bool)} {check name : String}
    (hname : name ≠ check) :
    (entries.filter fun entry => entry.1 != check).lookup name = entries.lookup name := by
  induction entries with
  | nil => rfl
  | cons entry entries ih =>
    obtain ⟨key, value⟩ := entry
    rw [lookup_cons_ite, ← ih]
    by_cases hkey : key = check
    · simp [hkey, hname]
    · simp [hkey, lookup_cons_ite]

/-- A switch decides about its own check only. -/
lemma isOn_switch (config : Config) (check : String) (on : Bool) (name : String) :
    (config.switch check on).isOn name = if name = check then on else config.isOn name := by
  have hnew : ∀ entry ∈ config.checks.filter fun entry => entry.1 != check, entry.1 ≠ check := by
    intro entry hentry
    simpa using (List.mem_filter.1 hentry).2
  unfold isOn
  rw [switch, lookup_insert hnew]
  split_ifs with hname
  · rfl
  · rw [lookup_filter_ne hname]

lemma isOn_switchOff (config : Config) (off : List Check) (name : String) :
    (config.switchOff off).isOn name =
      (config.isOn name && !(off.map Check.name).contains name) := by
  unfold switchOff
  induction off generalizing config with
  | nil => simp
  | cons check off ih =>
    rw [List.foldl_cons, ih, isOn_switch]
    by_cases hname : name = check.name <;> simp [hname]

@[simp] lemma layers_switchOff (config : Config) (off : List Check) :
    (config.switchOff off).layers = config.layers := by
  unfold switchOff
  induction off generalizing config with
  | nil => rfl
  | cons check off ih => rw [List.foldl_cons, ih, switch]

end Config

namespace Check

lemma name_injective : Function.Injective name := by
  intro a b h
  cases a <;> cases b <;> first | rfl | exact absurd h (by decide)

end Check

namespace Rule

/-- Switching checks off leaves out their rules. -/
lemma switchedOn_switchOff (config : Config) (off : List Check) :
    switchedOn (config.switchOff off).isOn =
      (switchedOn config.isOn).filter fun rule =>
        !(off.map Check.code).contains rule.check.code := by
  -- checks are switched by name and picked out by code, and both tell them apart
  have hcontains : ∀ check : Check, (off.map Check.name).contains check.name =
      (off.map Check.code).contains check.code := by
    intro check
    rw [Bool.eq_iff_iff, List.contains_iff_mem, List.contains_iff_mem,
      List.mem_map_of_injective Check.name_injective,
      List.mem_map_of_injective Check.code_injective]
  unfold switchedOn
  rw [List.filter_map, List.filter_filter]
  congr 1
  refine List.filter_congr fun check _ => ?_
  rw [Config.isOn_switchOff, hcontains, Bool.and_comm]
  rfl

end Rule

namespace Analysis

/-- Switches are independent: switching some checks off takes the violations with their codes out
of the report and keeps the others in their order.  A violation has the code of the check that
reports it, and also its name unless it is an anti-pattern, which is reported under the name of the
ecosystem's own rule. -/
theorem violations_switchOff (ecosystem : Ecosystem) (config : Config)
    (modules : List SourceModule) :
    (∀ off : List Check,
      (report ecosystem (config.switchOff off) modules).violations =
        (report ecosystem config modules).violations.filter fun v =>
          !(off.map Check.code).contains v.code) ∧
    (∀ rule : Rule, ∀ v ∈ rule.violations ⟨ecosystem, config.layers, modules⟩,
      v.code = rule.check.code ∧ v.rule = rule.check.reportedAs ecosystem) := by
  constructor
  · intro off
    have hrules := Rule.switchedOn_switchOff config off
    simp only [report, Summary.ofRules, hrules, Config.layers_switchOff]
    exact (Rule.filter_code_runAll (fun code => !(off.map Check.code).contains code) _ _).symm
  · intro rule v hv
    have hcarries := Rule.carries_of_mem_violations hv
    exact ⟨hcarries.code, hcarries.rule⟩

/-- A view that imports something missing and reaches into the data. -/
def homeModules : List SourceModule :=
  [{ path := "views/home.py", layer := some "views"
     dependencies :=
      [⟨"views/home.py", "app.ghost", 1, "import app.ghost", .unresolved⟩,
        ⟨"views/home.py", "data/repo.py", 2, "from data import repo", .resolved⟩] },
    { path := "data/repo.py", layer := some "data" }]

theorem violations_switchOff_homeModules :
    let config : Config :=
      { layers :=
          [{ name := "views", pattern := "views/**" }, { name := "data", pattern := "data/**" }] }
    let off : List Check := [.unresolvedImport, .circularDependency]
    let names := fun config => (report .python config homeModules).violations.map fun v =>
      (v.code, v.rule)
    names config =
        [("LL001", "unresolved-import"), ("LL002", "dependency-direction"),
          ("LL005", "python-architecture-anti-pattern")] ∧
      (report .python (config.switchOff off) homeModules).violations =
        (report .python config homeModules).violations.filter
          (fun v => !(["LL001", "LL003"].contains v.code)) ∧
      ∃ v, v ∈ (Rule.ofCheck .architectureAntiPattern).violations
          ⟨.python, config.layers, homeModules⟩ ∧
        v.code = "LL005" ∧ v.rule = "python-architecture-anti-pattern" := by
  intro config off names
  refine ⟨by decide +kernel, (violations_switchOff .python config homeModules).1 off, ?_⟩
  let graph : ModuleGraph := ⟨.python, config.layers, homeModules⟩
  have hreported : (Rule.ofCheck .architectureAntiPattern).violations graph ≠ [] := by
    decide +kernel
  obtain ⟨v, hv⟩ := List.exists_mem_of_ne_nil _ hreported
  exact ⟨v, hv, (violations_switchOff .python config homeModules).2 _ v hv⟩

end Analysis

end Strata

import Mathlib.Data.List.Perm.Basic
import Strata.Analysis
import Strata.Proofs.Check.Reports
import Strata.Proofs.Cycle.Modules

/-!
# The order of the modules

The checks look up modules by their paths, and otherwise go through the modules one by one.  So if
the paths tell the modules apart, another order of the modules only reorders the reports.

The check for circular dependencies does not even do that.  It searches a graph with sorted nodes
and sorted edges, and reports the least line of an edge; both depend only on which modules and
links there are, not on where they stand.
-/

namespace Strata

/-! ### Circular dependencies -/

/-- The modules have the same path and the same dependencies, in any order. -/
structure SourceModule.SameImports (m m' : SourceModule) : Prop where
  /-- The paths are equal. -/
  path : m.path = m'.path
  /-- The dependencies are the same. -/
  dependencies : m.dependencies.Perm m'.dependencies

namespace ModuleGraph

variable {graph graph' : ModuleGraph}

/-- The two graphs have modules at the same paths and the same links between them. -/
structure SameLinks (graph graph' : ModuleGraph) : Prop where
  /-- The same paths are known. -/
  knows : ∀ path, graph.Knows path ↔ graph'.Knows path
  /-- The links are the same. -/
  links : ∀ a b d, graph.Links a b d ↔ graph'.Links a b d

/-- Lists with the same elements have the same least element. -/
lemma min?_congr {as bs : List ℕ} (hmem : ∀ n, n ∈ as ↔ n ∈ bs) : as.min? = bs.min? := by
  ext least
  simp only [List.min?_eq_some_iff, hmem]

namespace SameLinks

lemma mem_linksFrom_iff (h : SameLinks graph graph') (path : String) (d : Dependency) :
    d ∈ graph.linksFrom path ↔ d ∈ graph'.linksFrom path := by
  rw [mem_linksFrom, mem_linksFrom, h.links, h.knows]

lemma successors_eq (h : SameLinks graph graph') (path : String) :
    Ascending.strings ((graph.linksFrom path).map Dependency.target) =
      Ascending.strings ((graph'.linksFrom path).map Dependency.target) := by
  apply Ascending.strings_congr
  intro target
  simp only [List.mem_map, h.mem_linksFrom_iff]

lemma adjacency_eq (h : SameLinks graph graph') : graph.adjacency = graph'.adjacency := by
  have hpaths : Ascending.strings (graph.modules.map SourceModule.path) =
      Ascending.strings (graph'.modules.map SourceModule.path) := by
    apply Ascending.strings_congr
    intro path
    rw [List.mem_map, List.mem_map]
    exact h.knows path
  simp only [adjacency, hpaths, h.successors_eq]

/-- The least line of a link does not depend on the order of the links. -/
lemma linkLine_eq (h : SameLinks graph graph') (source target : String) :
    graph.linkLine source target = graph'.linkLine source target := by
  simp only [linkLine]
  congr 1
  apply min?_congr
  intro line
  simp only [List.mem_map, List.mem_filter, h.mem_linksFrom_iff]

end SameLinks

lemma sameLinks_of_perm {ecosystem : Ecosystem} {layers : List Layer}
    {modules modules' : List SourceModule} (h : modules.Perm modules') :
    SameLinks ⟨ecosystem, layers, modules⟩ ⟨ecosystem, layers, modules'⟩ where
  knows path := by simp only [Knows, h.mem_iff]
  links a b d := by simp only [Links, h.mem_iff]

/-- Reordering the dependencies of each module keeps the links. -/
lemma sameLinks_of_sameImports {ecosystem : Ecosystem} {layers : List Layer}
    {modules modules' : List SourceModule}
    (h : List.Forall₂ SourceModule.SameImports modules modules') :
    SameLinks ⟨ecosystem, layers, modules⟩ ⟨ecosystem, layers, modules'⟩ := by
  induction h with
  | nil => exact ⟨fun _ => Iff.rfl, fun _ _ _ => Iff.rfl⟩
  | cons hm _ ih =>
    -- what the first modules say is the same, and the others are left to the induction
    refine ⟨fun path => ?_, fun a b d => ?_⟩
    · have hrest := ih.knows path
      simp only [Knows, List.exists_mem_cons_iff] at hrest ⊢
      rw [hm.path, hrest]
    · have hrest := ih.links a b d
      simp only [Links, List.exists_mem_cons_iff] at hrest ⊢
      rw [hm.path, hm.dependencies.mem_iff, hrest]

end ModuleGraph

namespace Check

variable {graph graph' : ModuleGraph}

/-- The check for circular dependencies looks only at the links. -/
lemma circularDependencies_congr (h : graph.SameLinks graph') (severity : Severity) :
    circularDependencies severity graph = circularDependencies severity graph' := by
  unfold circularDependencies
  rw [h.adjacency_eq]
  congr 1
  funext cycle
  cases cycle with
  | nil => rfl
  | cons first others => simp only [circular, h.linkLine_eq]

end Check

/-! ### The other checks -/

namespace ModuleGraph

variable {graph graph' : ModuleGraph}

/-- If the paths tell the modules apart, looking up a path finds the one module there. -/
lemma module?_eq_some_iff (hpaths : (graph.modules.map SourceModule.path).Nodup) {path : String}
    {m : SourceModule} : graph.module? path = some m ↔ m ∈ graph.modules ∧ m.path = path := by
  have hfound : ∀ {found}, graph.module? path = some found →
      found ∈ graph.modules ∧ found.path = path := by
    intro found hfound
    refine ⟨List.mem_reverse.1 (List.mem_of_find?_eq_some hfound), ?_⟩
    simpa using List.find?_some hfound
  refine ⟨hfound, ?_⟩
  rintro ⟨hm, hpath⟩
  have hknown : (graph.module? path).isSome = true := isSome_module?_iff.2 ⟨m, hm, hpath⟩
  obtain ⟨found, hsome⟩ := Option.isSome_iff_exists.1 hknown
  obtain ⟨hmem, hsame⟩ := hfound hsome
  have heq : found = m := List.inj_on_of_nodup_map hpaths hmem hm (hsame.trans hpath.symm)
  rw [hsome, heq]

/-- The two graphs have modules in the same layers at the same paths. -/
structure SameLayers (graph graph' : ModuleGraph) : Prop where
  /-- The ecosystems are the same. -/
  ecosystem : graph.ecosystem = graph'.ecosystem
  /-- The declared layers are the same. -/
  layers : graph.layers = graph'.layers
  /-- The layers at each path are the same. -/
  layerAt? : ∀ path, graph.layerAt? path = graph'.layerAt? path

lemma sameLayers_of_perm {ecosystem : Ecosystem} {layers : List Layer}
    {modules modules' : List SourceModule} (hperm : modules.Perm modules')
    (hpaths : (modules.map SourceModule.path).Nodup) :
    SameLayers ⟨ecosystem, layers, modules⟩ ⟨ecosystem, layers, modules'⟩ where
  ecosystem := rfl
  layers := rfl
  layerAt? path := by
    have hpaths' : (modules'.map SourceModule.path).Nodup := (hperm.map _).nodup_iff.1 hpaths
    have hmodule : (⟨ecosystem, layers, modules⟩ : ModuleGraph).module? path =
        (⟨ecosystem, layers, modules'⟩ : ModuleGraph).module? path := by
      ext m
      rw [module?_eq_some_iff hpaths, module?_eq_some_iff hpaths', hperm.mem_iff]
    rw [ModuleGraph.layerAt?, ModuleGraph.layerAt?, hmodule]

end ModuleGraph

namespace Check

variable {graph graph' : ModuleGraph}

lemma forbiddenLayer?_congr (h : graph.SameLayers graph') :
    forbiddenLayer? graph = forbiddenLayer? graph' := by
  funext layer d
  simp only [forbiddenLayer?, h.layerAt?]

lemma wrongDirections_congr (h : graph.SameLayers graph') (severity : Severity) :
    wrongDirections severity graph = wrongDirections severity graph' := by
  have hdeclared : graph.layer? = graph'.layer? := by
    funext name
    rw [ModuleGraph.layer?, ModuleGraph.layer?, h.layers]
  funext m
  simp only [wrongDirections, hdeclared, forbiddenLayer?_congr h]

lemma misuse?_congr (h : graph.SameLayers graph') : misuse? graph = misuse? graph' := by
  have hrole : targetRole? graph = targetRole? graph' := by
    funext d
    rw [targetRole?, targetRole?, h.layerAt?]
  funext role d
  unfold misuse?
  rw [hrole, h.ecosystem]

lemma antiPatternsIn_congr (h : graph.SameLayers graph') (severity : Severity) :
    antiPatternsIn severity graph = antiPatternsIn severity graph' := by
  funext m
  simp only [antiPatternsIn, misuse?_congr h, h.ecosystem]

end Check

namespace Rule

/-- The order of the modules only matters to the order of what a rule reports. -/
lemma violations_perm {ecosystem : Ecosystem} {layers : List Layer}
    {modules modules' : List SourceModule} (hperm : modules.Perm modules')
    (hpaths : (modules.map SourceModule.path).Nodup) (rule : Rule) :
    (rule.violations ⟨ecosystem, layers, modules⟩).Perm
      (rule.violations ⟨ecosystem, layers, modules'⟩) := by
  have hlayers : ModuleGraph.SameLayers ⟨ecosystem, layers, modules⟩
      ⟨ecosystem, layers, modules'⟩ := ModuleGraph.sameLayers_of_perm hperm hpaths
  obtain ⟨check, severity, words⟩ := rule
  cases check with
  | unresolvedImport => exact ((hperm.flatMap_right _).filter _).map _
  | dependencyDirection =>
    simp only [violations, Check.dependencyDirections, Check.wrongDirections_congr hlayers]
    exact hperm.flatMap_right _
  | circularDependency =>
    simp only [violations]
    rw [Check.circularDependencies_congr (ModuleGraph.sameLinks_of_perm hperm)]
  | businessLogicPlacement => exact hperm.flatMap_right _
  | architectureAntiPattern =>
    simp only [violations, Check.antiPatterns, Check.antiPatternsIn_congr hlayers]
    exact hperm.flatMap_right _

lemma runAll_perm {ecosystem : Ecosystem} {layers : List Layer}
    {modules modules' : List SourceModule} (hperm : modules.Perm modules')
    (hpaths : (modules.map SourceModule.path).Nodup) (rules : List Rule) :
    (runAll rules ⟨ecosystem, layers, modules⟩).Perm
      (runAll rules ⟨ecosystem, layers, modules'⟩) :=
  List.Perm.flatMap_left rules fun rule _ => violations_perm hperm hpaths rule

end Rule

namespace Summary

/-- The reports on circular dependencies. -/
def circular (summary : Summary) : List Violation :=
  summary.violations.filter fun v => v.code == "LL003"

end Summary

namespace Analysis

/-- With the same links, the same circular dependencies are reported in the same order. -/
lemma circular_report_congr (ecosystem : Ecosystem) (config : Config)
    {modules modules' : List SourceModule}
    (h : ModuleGraph.SameLinks ⟨ecosystem, config.layers, modules⟩
      ⟨ecosystem, config.layers, modules'⟩) :
    (report ecosystem config modules).circular = (report ecosystem config modules').circular := by
  have hpicked := Rule.filter_code_runAll_switchedOn .circularDependency config.isOn
  refine (hpicked ⟨ecosystem, config.layers, modules⟩).trans ?_
  refine Eq.trans ?_ (hpicked ⟨ecosystem, config.layers, modules'⟩).symm
  congr 1
  exact Check.circularDependencies_congr h _

/-- The order of the modules does not matter to the checks.  If the paths tell the modules apart,
the same violations are reported for another order of the modules, each as often.  The circular
dependencies are reported in the same order as well, and also if the dependencies inside the
modules are reordered. -/
theorem report_of_reordered (ecosystem : Ecosystem) (config : Config)
    (modules modules' : List SourceModule) :
    (modules.Perm modules' → (modules.map SourceModule.path).Nodup →
      (report ecosystem config modules).violations.Perm
        (report ecosystem config modules').violations) ∧
    (modules.Perm modules' →
      (report ecosystem config modules).circular = (report ecosystem config modules').circular) ∧
    (List.Forall₂ SourceModule.SameImports modules modules' →
      (report ecosystem config modules).circular =
        (report ecosystem config modules').circular) := by
  refine ⟨?_, ?_, ?_⟩
  · intro hperm hpaths
    exact Rule.runAll_perm hperm hpaths _
  · intro hperm
    exact circular_report_congr ecosystem config (ModuleGraph.sameLinks_of_perm hperm)
  · intro himports
    exact circular_report_congr ecosystem config (ModuleGraph.sameLinks_of_sameImports himports)

/-- A module of the domain that imports from the data twice. -/
def domainModule : SourceModule where
  path := "entity.py"
  layer := some "domain"
  dependencies :=
    [⟨"entity.py", "store.py", 4, "import store", .resolved⟩,
      ⟨"entity.py", "store.py", 2, "from store import save", .resolved⟩]

/-- A module of the data that imports from the domain. -/
def dataModule : SourceModule where
  path := "store.py"
  layer := some "data"
  dependencies := [⟨"store.py", "entity.py", 1, "from entity import User", .resolved⟩]

/-- Neither of two layers may depend on the other, and their modules import each other.  Turning the
modules round turns the reports on directions round, but the cycle is the same, and it stands at
the same line even if the imports are turned round as well. -/
theorem report_of_reordered_domainModule :
    let config : Config :=
      { layers :=
          [{ name := "domain", pattern := "entity.py" },
            { name := "data", pattern := "store.py" }] }
    let lines := fun modules => (report .python config modules).violations.map fun v =>
      (v.code, v.file, v.line)
    let turned := { domainModule with dependencies := domainModule.dependencies.reverse }
    ([domainModule, dataModule].map SourceModule.path).Nodup ∧
      lines [domainModule, dataModule] =
        [("LL002", "entity.py", 4), ("LL002", "entity.py", 2), ("LL002", "store.py", 1),
          ("LL003", "entity.py", 2)] ∧
      lines [dataModule, domainModule] =
        [("LL002", "store.py", 1), ("LL002", "entity.py", 4), ("LL002", "entity.py", 2),
          ("LL003", "entity.py", 2)] ∧
      (report .python config [domainModule, dataModule]).violations.Perm
        (report .python config [dataModule, domainModule]).violations ∧
      (report .python config [domainModule, dataModule]).circular =
        (report .python config [dataModule, domainModule]).circular ∧
      (report .python config [domainModule, dataModule]).circular =
        (report .python config [turned, dataModule]).circular := by
  intro config lines turned
  have hperm : [domainModule, dataModule].Perm [dataModule, domainModule] := List.Perm.swap _ _ _
  have hturned : List.Forall₂ SourceModule.SameImports [domainModule, dataModule]
      [turned, dataModule] :=
    .cons ⟨rfl, (List.reverse_perm _).symm⟩ (.cons ⟨rfl, List.Perm.refl _⟩ .nil)
  have hreordered := report_of_reordered .python config [domainModule, dataModule]
    [dataModule, domainModule]
  have hpaths : ([domainModule, dataModule].map SourceModule.path).Nodup := by decide
  refine ⟨hpaths, by decide +kernel, by decide +kernel, hreordered.1 hperm hpaths,
    hreordered.2.1 hperm, ?_⟩
  exact (report_of_reordered .python config _ _).2.2 hturned

end Analysis

end Strata

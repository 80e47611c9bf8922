import Strata.Command
import Strata.Proofs.Check.Reports

/-!
# The verdict of a run

A run fails if and only if some module depends on a module of a layer that its own layer must not
depend on, and the check for this is switched on.  The other checks never report an error.  The
check reports each such dependency once, in the order of the modules and of the dependencies in
each of them.
-/

namespace Strata

namespace ModuleGraph

/-- A resolved dependency of a module that leads from its layer, which is declared, to another
layer that is not on its allow-list. -/
def Forbids (graph : ModuleGraph) (m : SourceModule) (d : Dependency) : Prop :=
  d.kind = .resolved ∧ ∃ own layer target other, m.layer = some own ∧
    (graph.layers.find? fun declared => declared.name == own) = some layer ∧
    graph.module? d.target = some target ∧ target.layer = some other ∧
    other ≠ own ∧ other ∉ layer.allow

variable {graph : ModuleGraph} {m : SourceModule} {d : Dependency} {layer : Layer}

/-- A layer that the check finds fault with is that of the target, another one, and not allowed. -/
lemma forbiddenLayer?_eq_some_iff {other : String} :
    Check.forbiddenLayer? graph layer d = some other ↔
      d.kind = .resolved ∧ graph.layerAt? d.target = some other ∧
        other ≠ layer.name ∧ other ∉ layer.allow := by
  unfold Check.forbiddenLayer? Dependency.isResolved Layer.allows
  by_cases hkind : d.kind = .resolved
  · rw [if_pos (beq_iff_eq.2 hkind), and_iff_right hkind]
    rcases graph.layerAt? d.target with _ | found
    · simp
    · simp only [List.contains_iff_mem, Option.some_inj]
      split_ifs with hallowed
      · refine iff_of_false (by simp) ?_
        rintro ⟨rfl, hne, hnot⟩
        exact hallowed.elim hne hnot
      · rw [not_or] at hallowed
        constructor
        · rintro ⟨rfl⟩
          exact ⟨rfl, hallowed⟩
        · rintro ⟨rfl, -⟩
          rfl
  · rw [if_neg (by rwa [beq_iff_eq])]
    exact iff_of_false (by simp) fun h => hkind h.1

/-- For a module with a declared layer, the check decides whether a dependency is forbidden. -/
lemma forbids_iff (hlayer : m.layer.bind graph.layer? = some layer) :
    graph.Forbids m d ↔ (Check.forbiddenLayer? graph layer d).isSome = true := by
  obtain ⟨own, hown, hdeclared⟩ := Option.bind_eq_some_iff.1 hlayer
  have hname : layer.name = own := by simpa using List.find?_some hdeclared
  rw [Option.isSome_iff_exists]
  simp only [forbiddenLayer?_eq_some_iff, layerAt?, Option.bind_eq_some_iff, hname]
  constructor
  · rintro ⟨hkind, own', layer', target, other, hown', hdeclared', htarget, hother, hne, hnot⟩
    obtain rfl : own' = own := Option.some_inj.1 (hown'.symm.trans hown)
    obtain rfl : layer' = layer := Option.some_inj.1 (hdeclared'.symm.trans hdeclared)
    exact ⟨other, hkind, ⟨target, htarget, hother⟩, hne, hnot⟩
  · rintro ⟨other, hkind, ⟨target, htarget, hother⟩, hne, hnot⟩
    exact ⟨hkind, own, layer, target, other, hown, hdeclared, htarget, hother, hne, hnot⟩

lemma not_forbids (hlayer : m.layer.bind graph.layer? = none) : ¬ graph.Forbids m d := by
  rintro ⟨-, own, layer, target, other, hown, hdeclared, -⟩
  rw [hown, Option.bind_some] at hlayer
  exact absurd (hlayer.symm.trans hdeclared) (by simp)

instance (graph : ModuleGraph) (m : SourceModule) (d : Dependency) :
    Decidable (graph.Forbids m d) :=
  match hlayer : m.layer.bind graph.layer? with
  | none => isFalse (not_forbids hlayer)
  | some _ => decidable_of_iff _ (forbids_iff hlayer).symm

/-- The forbidden dependencies, module by module, each with its module. -/
def offences (graph : ModuleGraph) : List (SourceModule × Dependency) :=
  graph.modules.flatMap fun m => (m.dependencies.filter fun d => graph.Forbids m d).map (m, ·)

lemma mem_offences : (m, d) ∈ graph.offences ↔
    m ∈ graph.modules ∧ d ∈ m.dependencies ∧ graph.Forbids m d := by
  simp only [offences, List.mem_flatMap, List.mem_map, List.mem_filter, decide_eq_true_eq,
    Prod.mk.injEq]
  constructor
  · rintro ⟨_, hm, _, hd, rfl, rfl⟩
    exact ⟨hm, hd⟩
  · rintro ⟨hm, hd⟩
    exact ⟨m, hm, d, hd, rfl, rfl⟩

end ModuleGraph

namespace Check

variable {graph : ModuleGraph} {severity : Severity}

/-- The places that are reported in a module are those of its forbidden dependencies. -/
lemma places_wrongDirections (severity : Severity) (graph : ModuleGraph) (m : SourceModule) :
    ((wrongDirections severity graph m).map fun v => (v.file, v.line)) =
      (m.dependencies.filter fun d => graph.Forbids m d).map fun d => (m.path, d.line) := by
  unfold wrongDirections
  split
  · rename_i hlayer
    have hnone : (m.dependencies.filter fun d => graph.Forbids m d) = [] := by
      rw [List.filter_eq_nil_iff]
      intro d _
      rw [decide_eq_true_eq]
      exact ModuleGraph.not_forbids hlayer
    rw [hnone]
    rfl
  · rename_i layer hlayer
    induction m.dependencies with
    | nil => rfl
    | cons d dependencies ih =>
      have hforbids := ModuleGraph.forbids_iff hlayer (d := d)
      rw [List.filterMap_cons, List.filter_cons]
      rcases hfound : forbiddenLayer? graph layer d with _ | target <;> rw [hfound] at hforbids
      · rw [if_neg (by simpa using hforbids)]
        exact ih
      · rw [if_pos (by simpa using hforbids)]
        exact congrArg _ ih

lemma places_dependencyDirections (severity : Severity) (graph : ModuleGraph) :
    ((dependencyDirections severity graph).map fun v => (v.file, v.line)) =
      graph.offences.map fun offence => (offence.1.path, offence.2.line) := by
  unfold dependencyDirections ModuleGraph.offences
  rw [List.map_flatMap, List.map_flatMap]
  congr 1
  funext m
  rw [places_wrongDirections, List.map_map]
  rfl

lemma dependencyDirections_ne_nil_iff :
    dependencyDirections severity graph ≠ [] ↔
      ∃ m ∈ graph.modules, ∃ d ∈ m.dependencies, graph.Forbids m d := by
  have hlength : (dependencyDirections severity graph).length = graph.offences.length := by
    simpa using congrArg List.length (places_dependencyDirections severity graph)
  rw [← List.length_pos_iff, hlength, List.length_pos_iff]
  constructor
  · intro hne
    obtain ⟨⟨m, d⟩, hmem⟩ := List.exists_mem_of_ne_nil _ hne
    obtain ⟨hm, hd, hforbids⟩ := ModuleGraph.mem_offences.1 hmem
    exact ⟨m, hm, d, hd, hforbids⟩
  · rintro ⟨m, hm, d, hd, hforbids⟩
    exact List.ne_nil_of_mem (ModuleGraph.mem_offences.2 ⟨hm, hd, hforbids⟩)

end Check

namespace Command

/-- A check of a path gets so far that its modules are built: from which configuration, for which
ecosystem, and which modules. -/
structure Analyses (world : World) (path : String) (given : Option String)
    (chosen : Option Ecosystem) (exclude : List String) (ecosystem : Ecosystem) (config : Config)
    (modules : List SourceModule) : Prop where
  /-- The configuration is found and read. -/
  configured : checkConfig world path given chosen exclude = .ok config
  /-- It is accepted, and there is a directory at the root. -/
  prepared :
    let site := world.site (analysisRoot path config.root)
    Analysis.prepare config site.2.1 site.2.2 = .ok ecosystem
  /-- The modules are built. -/
  built :
    let site := world.site (analysisRoot path config.root)
    Analysis.buildModules ecosystem config site.1 site.2.1 (Path.parse site.2.2) = .ok modules

variable {world : World} {path : String} {given : Option String} {chosen : Option Ecosystem}
  {exclude : List String} {ecosystem : Ecosystem} {config : Config} {modules : List SourceModule}

lemma check_eq (h : Analyses world path given chosen exclude ecosystem config modules)
    (format : Report.Format) :
    check world path given format chosen exclude =
      { exit := if (Analysis.report ecosystem config modules).hasErrors then 1 else 0
        output := Report.render (Analysis.report ecosystem config modules) format } := by
  unfold check Analysis.run
  rw [h.configured]
  simp only [h.prepared, h.built, bind, Except.bind, pure, Except.pure]

end Command

/-- The verdict: a run has errors if and only if the check for directions is switched on and
there is a forbidden dependency; and so a check of a path whose modules are built exits with 1.
The violations with the code of the check are those of the forbidden dependencies, one for each, in
their order and at their places. -/
theorem hasErrors_iff_forbids (ecosystem : Ecosystem) (config : Config)
    (modules : List SourceModule) :
    ((Analysis.report ecosystem config modules).hasErrors = true ↔
      config.isOn "dependency-direction" = true ∧
        ∃ m ∈ modules, ∃ d ∈ m.dependencies,
          ModuleGraph.Forbids ⟨ecosystem, config.layers, modules⟩ m d) ∧
    (∀ world path given format chosen exclude,
      Command.Analyses world path given chosen exclude ecosystem config modules →
        ((Command.check world path given format chosen exclude).exit = 1 ↔
          config.isOn "dependency-direction" = true ∧
            ∃ m ∈ modules, ∃ d ∈ m.dependencies,
              ModuleGraph.Forbids ⟨ecosystem, config.layers, modules⟩ m d)) ∧
    ((Analysis.report ecosystem config modules).violations.filter fun v => v.code == "LL002").map
        (fun v => (v.file, v.line)) =
      if config.isOn "dependency-direction" then
        (ModuleGraph.offences ⟨ecosystem, config.layers, modules⟩).map fun offence =>
          (offence.1.path, offence.2.line)
      else [] := by
  have herrors : (Analysis.report ecosystem config modules).hasErrors = true ↔
      config.isOn "dependency-direction" = true ∧
        ∃ m ∈ modules, ∃ d ∈ m.dependencies,
          ModuleGraph.Forbids ⟨ecosystem, config.layers, modules⟩ m d := by
    have hiff := Rule.exists_error_iff config.isOn ⟨ecosystem, config.layers, modules⟩
    rw [Check.dependencyDirections_ne_nil_iff] at hiff
    rw [Summary.hasErrors, List.any_eq_true]
    simp only [beq_iff_eq]
    exact hiff
  refine ⟨herrors, ?_, ?_⟩
  · intro world path given format chosen exclude h
    rw [Command.check_eq h, ← herrors]
    dsimp only
    split_ifs with hverdict
    · exact iff_of_true rfl hverdict
    · exact iff_of_false (by simp) hverdict
  · have hfilter := Rule.filter_code_runAll_switchedOn .dependencyDirection config.isOn
      ⟨ecosystem, config.layers, modules⟩
    refine (congrArg (List.map fun v : Violation => (v.file, v.line)) hfilter).trans ?_
    by_cases hon : config.isOn "dependency-direction" = true
    · rw [if_pos hon]
      exact (congrArg _ (if_pos hon)).trans (Check.places_dependencyDirections .error _)
    · rw [if_neg hon]
      exact congrArg _ (if_neg hon)

/-! ### A project that fails -/

deriving instance DecidableEq for Config

/-- Two layers, none of which may depend on the other. -/
def twoLayers : Config where
  ecosystem := some .python
  layers := [{ name := "domain", pattern := "domain/**" }, { name := "data", pattern := "data/**" }]

/-- A working directory with these layers, in which the domain imports from the data. -/
def layeredWorld : Command.World where
  label := "/project"
  tree :=
    .dir
      [("layer-lint.toml", .file (.text (Text.joinWith "\n"
          ["[analyzer]", "ecosystem = \"python\"",
            "[[layers]]", "name = \"domain\"", "pattern = \"domain/**\"",
            "[[layers]]", "name = \"data\"", "pattern = \"data/**\""]))),
        ("domain", .dir [("user.py", .file (.text "from data.store import save\n"))]),
        ("data", .dir [("store.py", .file (.text "def save(): pass\n"))])]

/-- The modules in it. -/
def layeredModules : List SourceModule :=
  [{ path := "data/store.py", layer := some "data", exports := [⟨"save", 1⟩] },
    { path := "domain/user.py", layer := some "domain"
      dependencies :=
        [⟨"domain/user.py", "data/store.py", 1, "from data.store import save", .resolved⟩] }]

theorem hasErrors_iff_forbids_layeredWorld :
    Command.Analyses layeredWorld "." none none [] .python twoLayers layeredModules ∧
      (Command.check layeredWorld "." none .json none []).exit = 1 := by
  have hanalyses :
      Command.Analyses layeredWorld "." none none [] .python twoLayers layeredModules := by
    refine ⟨?_, ?_, ?_⟩ <;> decide +kernel
  refine ⟨hanalyses, ?_⟩
  refine ((hasErrors_iff_forbids .python twoLayers layeredModules).2.1
    layeredWorld "." none .json none [] hanalyses).2 ⟨rfl, ?_⟩
  decide +kernel

end Strata

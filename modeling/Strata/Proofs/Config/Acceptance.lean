import Mathlib.Data.List.Nodup
import Strata.Analysis
import Strata.Proofs.Layer.Assignment
import Strata.Proofs.Text.Words

/-!
# Accepted configurations

A configuration is accepted if and only if it is well formed: a condition on the configuration as a
whole, while the search for a problem passes over the layers one by one, with the names of those
before at hand, then over the allow-lists and over the switches.

In an accepted configuration every layer is declared once, so a file that belongs to a layer belongs
to one whose declaration is found.
-/

namespace Strata

open Strata.Text

/-- A layer that can be declared: its name is not empty and written in small letters, digits,
underscores and hyphens, and its glob is not blank. -/
structure Layer.Declarable (layer : Layer) : Prop where
  name_ne : layer.name ≠ ""
  letters : ∀ c ∈ layer.name.toList,
    'a' ≤ c ∧ c ≤ 'z' ∨ '0' ≤ c ∧ c ≤ '9' ∨ c = '_' ∨ c = '-'
  pattern : ∃ c ∈ layer.pattern.toList, isBlank c = false

namespace Config

/-- The names that switch a check on and off. -/
def checkNames : List String :=
  ["unresolved-import", "dependency-direction", "circular-dependency", "business-logic-placement",
    "architecture-anti-pattern"]

/-- A configuration that can be used. -/
structure WellFormed (config : Config) : Prop where
  /-- There is an ecosystem. -/
  ecosystem : config.ecosystem ≠ none
  /-- There is a layer. -/
  layers : config.layers ≠ []
  /-- Names and globs of the layers are as they should be. -/
  declarable : ∀ layer ∈ config.layers, layer.Declarable
  /-- No two layers share a name. -/
  distinct : (config.layers.map Layer.name).Nodup
  /-- Allow-lists name layers, wherever these are declared. -/
  allowed : ∀ layer ∈ config.layers, ∀ other ∈ layer.allow,
    ∃ declared ∈ config.layers, declared.name = other
  /-- Only checks that there are are switched. -/
  checks : ∀ entry ∈ config.checks, entry.1 ∈ checkNames

/-! ### The layers one by one -/

lemma inLayerName_iff {c : Char} : inLayerName c = true ↔
    'a' ≤ c ∧ c ≤ 'z' ∨ '0' ≤ c ∧ c ≤ '9' ∨ c = '_' ∨ c = '-' := by
  have hlower : c.isLower = true ↔ 'a' ≤ c ∧ c ≤ 'z' :=
    Bool.and_eq_true_iff.trans (and_congr decide_eq_true_iff decide_eq_true_iff)
  have hdigit : c.isDigit = true ↔ '0' ≤ c ∧ c ≤ '9' :=
    Bool.and_eq_true_iff.trans (and_congr decide_eq_true_iff decide_eq_true_iff)
  rw [inLayerName, Bool.or_eq_true, Bool.or_eq_true, Bool.or_eq_true, hlower, hdigit, beq_iff_eq,
    beq_iff_eq, or_assoc, or_assoc, or_comm (a := c = '-')]

lemma trimmed_eq_empty_iff {text : String} :
    trimmed text = "" ↔ ¬ ∃ c ∈ text.toList, isBlank c = false := by
  rw [trimmed, ← String.toList_inj, String.toList_ofList, String.toList_empty, trim_eq_nil_iff]
  simp

lemma layerProblem?_eq_none_iff {place : Nat} {names : List String} {layer : Layer} :
    layerProblem? place names layer = none ↔ layer.Declarable ∧ layer.name ∉ names := by
  unfold layerProblem?
  split_ifs with hempty hletters hpattern hnames
  · exact iff_of_false (by simp) fun h => h.1.name_ne hempty
  · refine iff_of_false (by simp) fun h => ?_
    rw [Bool.not_eq_true', ← Bool.not_eq_true, List.all_eq_true] at hletters
    exact hletters fun c hc => inLayerName_iff.2 (h.1.letters c hc)
  · exact iff_of_false (by simp) fun h => trimmed_eq_empty_iff.1 hpattern h.1.pattern
  · exact iff_of_false (by simp) fun h => h.2 (List.contains_iff_mem.1 hnames)
  · refine iff_of_true rfl ⟨⟨hempty, ?_, ?_⟩, fun hmem => hnames (List.contains_iff_mem.2 hmem)⟩
    · rw [Bool.not_eq_true', Bool.not_eq_false, List.all_eq_true] at hletters
      exact fun c hc => inLayerName_iff.1 (hletters c hc)
    · exact not_not.1 fun hblank => hpattern (trimmed_eq_empty_iff.2 hblank)

/-- The induction is on the layers, with any names known before them. -/
lemma layersProblem?_eq_none_iff {place : Nat} {names : List String} {layers : List Layer} :
    layersProblem? place names layers = none ↔
      (∀ layer ∈ layers, layer.Declarable) ∧ (layers.map Layer.name).Nodup ∧
        ∀ layer ∈ layers, layer.name ∉ names := by
  induction layers generalizing place names with
  | nil => simp [layersProblem?]
  | cons layer rest ih =>
    have hfirst : layerProblem? place names layer = none ↔
        layer.Declarable ∧ layer.name ∉ names := layerProblem?_eq_none_iff
    rw [layersProblem?]
    split
    · rename_i problem hproblem
      rw [hproblem] at hfirst
      refine iff_of_false (by simp) fun h => ?_
      have hnone := hfirst.2 ⟨h.1 layer List.mem_cons_self, h.2.2 layer List.mem_cons_self⟩
      cases hnone
    · rename_i hproblem
      obtain ⟨hdeclarable, hfresh⟩ := hfirst.1 hproblem
      rw [ih, List.forall_mem_cons, List.map_cons, List.nodup_cons, List.forall_mem_cons]
      simp only [List.mem_cons, not_or, forall_and, List.mem_map, not_exists, not_and]
      constructor
      · rintro ⟨hrest, hnodup, hother, hnames⟩
        exact ⟨⟨hdeclarable, hrest⟩, ⟨hother, hnodup⟩, hfresh, hnames⟩
      · rintro ⟨⟨-, hrest⟩, ⟨hother, hnodup⟩, -, hnames⟩
        exact ⟨hrest, hnodup, hother, hnames⟩

/-! ### Allow-lists and switches -/

lemma allowProblem?_eq_none_iff {names : List String} {layer : Layer} :
    allowProblem? names layer = none ↔ ∀ other ∈ layer.allow, other ∈ names := by
  simp [allowProblem?, List.find?_eq_none]

lemma isNone_ofName?_iff {name : String} :
    (Check.ofName? name).isNone = true ↔ name ∉ checkNames := by
  have hnames : checkNames = Check.all.map Check.name := rfl
  rw [Option.isNone_iff_eq_none, Check.ofName?, List.find?_eq_none, hnames, List.mem_map]
  simp only [beq_iff_eq, not_exists, not_and]

lemma checkProblem?_eq_none_iff {config : Config} :
    config.checkProblem? = none ↔ ∀ entry ∈ config.checks, entry.1 ∈ checkNames := by
  rw [checkProblem?, Option.map_eq_none_iff, List.find?_eq_none]
  simp only [List.forall_mem_map, isNone_ofName?_iff, not_not]

/-- A configuration is accepted if and only if it is well formed. -/
lemma problem?_eq_none_iff {config : Config} : config.problem? = none ↔ config.WellFormed := by
  unfold problem?
  split_ifs with hecosystem hlayers
  · exact iff_of_false (by simp) fun h => h.ecosystem (Option.isNone_iff_eq_none.1 hecosystem)
  · exact iff_of_false (by simp) fun h => h.layers (List.isEmpty_iff.1 hlayers)
  · rw [Option.isNone_iff_eq_none] at hecosystem
    rw [List.isEmpty_iff] at hlayers
    rw [Option.or_eq_none_iff, Option.or_eq_none_iff, layersProblem?_eq_none_iff,
      List.findSome?_eq_none_iff, checkProblem?_eq_none_iff]
    simp only [allowProblem?_eq_none_iff, List.mem_map]
    constructor
    · rintro ⟨⟨hdeclarable, hdistinct, -⟩, hallowed, hchecks⟩
      exact ⟨hecosystem, hlayers, hdeclarable, hdistinct, hallowed, hchecks⟩
    · intro h
      exact ⟨⟨h.declarable, h.distinct, by simp⟩, h.allowed, h.checks⟩

end Config

/-! ### The layers of the modules -/

namespace Layer

lemma exists_of_assign {layers : List Layer} {path name : String}
    (h : assign layers path = some name) : ∃ layer ∈ layers, layer.name = name := by
  rw [assign_eq_find?, Option.map_eq_some_iff] at h
  obtain ⟨layer, hlayer, hname⟩ := h
  exact ⟨layer, List.mem_of_find?_eq_some hlayer, hname⟩

/-- Where no two layers share a name, a layer is the only one of its name. -/
lemma filter_name_eq {layers : List Layer} (hdistinct : (layers.map name).Nodup) {layer : Layer}
    (hlayer : layer ∈ layers) :
    (layers.filter fun declared => declared.name == layer.name) = [layer] := by
  have hnodup : (layers.filter fun declared => declared.name == layer.name).Nodup :=
    hdistinct.of_map.filter _
  refine List.perm_singleton.1 ((List.perm_ext_iff_of_nodup hnodup (List.nodup_singleton _)).2 ?_)
  intro other
  rw [List.mem_filter, beq_iff_eq, List.mem_singleton]
  constructor
  · exact fun h => List.inj_on_of_nodup_map hdistinct h.1 hlayer h.2
  · rintro rfl
    exact ⟨hlayer, rfl⟩

end Layer

lemma Analysis.layer_of_mem_buildModules {ecosystem : Ecosystem} {config : Config}
    {around : List Ignore.Scope} {tree : FileTree} {root : Path} {modules : List SourceModule}
    (hmodules : buildModules ecosystem config around tree root = .ok modules) {m : SourceModule}
    (hm : m ∈ modules) : m.layer = Layer.assign config.layers m.path := by
  unfold buildModules at hmodules
  split at hmodules
  · cases hmodules
  · cases hmodules
    obtain ⟨file, -, rfl⟩ := List.mem_map.1 hm
    rfl

/-- A configuration is accepted if and only if it is well formed.  If it is accepted, the layer of
every module that is built has exactly one declaration, and so the check of directions passes over
no module for want of a declaration, but only those that belong to no layer. -/
theorem accepted_iff_wellFormed (config : Config) :
    (config.problem? = none ↔ config.WellFormed) ∧
    (config.problem? = none → ∀ ecosystem around tree root modules,
      Analysis.buildModules ecosystem config around tree root = .ok modules → ∀ m ∈ modules,
        (∀ name, m.layer = some name → ∃ layer,
          (config.layers.filter fun declared => declared.name == name) = [layer] ∧
            ModuleGraph.layer? ⟨ecosystem, config.layers, modules⟩ name = some layer) ∧
        (m.layer.bind (ModuleGraph.layer? ⟨ecosystem, config.layers, modules⟩) = none →
          m.layer = none)) := by
  refine ⟨Config.problem?_eq_none_iff, fun haccepted => ?_⟩
  intro ecosystem around tree root modules hmodules m hm
  have hdistinct := (Config.problem?_eq_none_iff.1 haccepted).distinct
  have hdeclared : ∀ name, m.layer = some name → ∃ layer,
      (config.layers.filter fun declared => declared.name == name) = [layer] ∧
        ModuleGraph.layer? ⟨ecosystem, config.layers, modules⟩ name = some layer := by
    intro name hname
    rw [Analysis.layer_of_mem_buildModules hmodules hm] at hname
    obtain ⟨layer, hlayer, rfl⟩ := Layer.exists_of_assign hname
    have honly := Layer.filter_name_eq hdistinct hlayer
    refine ⟨layer, honly, ?_⟩
    rw [ModuleGraph.layer?, Layer.find?, ← List.head?_filter, honly, List.head?_singleton]
  refine ⟨hdeclared, fun hnone => ?_⟩
  by_contra hne
  obtain ⟨name, hname⟩ := Option.ne_none_iff_exists'.1 hne
  obtain ⟨layer, -, hfound⟩ := hdeclared name hname
  rw [hname, Option.bind_some, hfound] at hnone
  cases hnone

/-- Two layers; the first one may depend on the second one, which is declared after it. -/
def storeConfig : Config where
  ecosystem := some .python
  layers :=
    [{ name := "domain", pattern := "domain/**", allow := ["data_store"] },
      { name := "data_store", pattern := "data/**", precedence := some (-1) }]
  checks := [("circular-dependency", false)]

/-- A project with a file in the first layer and a file in none. -/
def storeTree : FileTree :=
  .dir [("domain", .dir [("user.py", .file (.text ""))]), ("main.py", .file (.text ""))]

theorem accepted_iff_wellFormed_storeConfig :
    let modules : List SourceModule :=
      [{ path := "domain/user.py", layer := some "domain" }, { path := "main.py", layer := none }]
    storeConfig.WellFormed ∧
      Analysis.buildModules .python storeConfig [] storeTree (Path.parse ".") = .ok modules ∧
      (∃ layer, (storeConfig.layers.filter fun declared => declared.name == "domain") = [layer] ∧
        ModuleGraph.layer? ⟨.python, storeConfig.layers, modules⟩ "domain" = some layer) := by
  intro modules
  have haccepted : storeConfig.problem? = none := by decide +kernel
  have hmodules : Analysis.buildModules .python storeConfig [] storeTree (Path.parse ".") =
      .ok modules := by
    decide +kernel
  obtain ⟨hiff, hdeclared⟩ := accepted_iff_wellFormed storeConfig
  refine ⟨hiff.1 haccepted, hmodules, ?_⟩
  exact (hdeclared haccepted .python [] storeTree _ modules hmodules _ List.mem_cons_self).1
    "domain" rfl

end Strata

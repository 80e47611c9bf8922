import Strata.Check.AntiPattern
import Strata.Proofs.Check.NamePatterns
import Strata.Proofs.Language.FirstCandidate

/-!
# Local imports and the names of libraries

Names are compared segment by segment, and dots and slashes only separate segments.  So the dots and
slashes with which a local specifier starts leave nothing behind: `./axios` has the same segments as
`axios` and is taken for that library.  A specifier counted from the project's sources is safe,
since its first segment is that of no library.  Any other local import that leads nowhere is
reported as the use of a library if and only if its path starts with the name of one that the module
must not use (`antiPatterns_localSpecifiers`).
-/

namespace Strata

open Strata.Text

/-! ### The libraries of a profile -/

namespace Profile

open Name

/-- The lists of patterns of a profile. -/
def lists (profile : Profile) : List (List String) :=
  [profile.dataAccess, profile.presentation, profile.platform]

/-- All patterns of a profile. -/
def patterns (profile : Profile) : List String := profile.lists.flatten

/-- The patterns for what a module with this role must not use. -/
def forbidden (profile : Profile) : Role → List String
  | .presentation => profile.dataAccess
  | .stateHolder => profile.presentation
  | .domain => profile.platform
  | .data => []
  | .other => []

/-- The segments that name the library which a pattern is for. -/
def library (pattern : String) : List String :=
  (segments pattern).takeWhile (· != "**")

/-- The pattern is the name of a library, or that name with `**` behind it. -/
structure ForLibrary (pattern : String) : Prop where
  /-- The name of the library stands for itself. -/
  literal : ∀ segment ∈ library pattern, Literal segment
  /-- Nothing but `**` comes behind it. -/
  segments_eq : segments pattern =
    library pattern ++ if pattern.toList.contains '*' then ["**"] else []

instance (pattern : String) : Decidable (ForLibrary pattern) :=
  decidable_of_iff (_ ∧ _) ⟨fun h => ⟨h.1, h.2⟩, fun h => ⟨h.1, h.2⟩⟩

lemma forLibrary_of_mem_patterns {ecosystem : Ecosystem} {pattern : String}
    (h : pattern ∈ (ofEcosystem ecosystem).patterns) : ForLibrary pattern := by
  have hall : ∀ pattern ∈ (ofEcosystem ecosystem).patterns, ForLibrary pattern := by
    cases ecosystem <;> decide +kernel
  exact hall pattern h

/-- A pattern for a library covers the names that start with the name of the library. -/
lemma covers_iff {pattern : String} (h : ForLibrary pattern) (name : String) :
    covers name pattern = true ↔ library pattern <+: segments name := by
  have hsegments := h.segments_eq
  cases hstar : pattern.toList.contains '*' with
  | true =>
    rw [hstar, if_pos rfl] at hsegments
    rw [covers, hstar, matchesPattern, hsegments, ← fits_globstar_iff h.literal]
    simp
  | false =>
    rw [hstar, if_neg Bool.false_ne_true, List.append_nil] at hsegments
    rw [covers_iff_isPrefix (by simpa using hstar), hsegments]

/-- A name is covered by none of some patterns if it starts with the name of none of their
libraries. -/
lemma firstCovering?_eq_none_iff {ecosystem : Ecosystem} {patterns : List String}
    (h : patterns ∈ (ofEcosystem ecosystem).lists) (name : String) :
    firstCovering? name patterns = none ↔ ∀ p ∈ patterns, ¬ library p <+: segments name := by
  rw [firstCovering?, List.find?_eq_none]
  refine forall₂_congr fun p hp => not_congr (covers_iff ?_ name)
  exact forLibrary_of_mem_patterns (List.mem_flatten_of_mem h hp)

lemma isSome_firstCovering?_iff {ecosystem : Ecosystem} {patterns : List String}
    (h : patterns ∈ (ofEcosystem ecosystem).lists) (name : String) :
    (firstCovering? name patterns).isSome = true ↔ ∃ p ∈ patterns, library p <+: segments name := by
  rw [Option.isSome_iff_ne_none, ne_eq, firstCovering?_eq_none_iff h]
  simp only [not_forall, not_not, exists_prop]

/-- No library is named like a specifier that is counted from the project's sources. -/
lemma not_library_prefix_of_alias {start : String} (hstart : start = "@/" ∨ start = "~/")
    (rest : String) {pattern : String} (h : pattern ∈ typescript.patterns) :
    ¬ library pattern <+: segments (start ++ rest) := by
  have hhead : ∀ pattern ∈ typescript.patterns,
      (library pattern).head? ≠ none ∧ (library pattern).head? ≠ some "@" ∧
        (library pattern).head? ≠ some "~" := by decide +kernel
  obtain ⟨hnone, hat, htilde⟩ := hhead pattern h
  obtain ⟨first, others, hlibrary⟩ := List.exists_cons_of_ne_nil (mt List.head?_eq_none_iff.2 hnone)
  have hsegments : segments (start ++ rest) =
      (if start = "@/" then "@" else "~") :: segments rest := by
    rcases hstart with rfl | rfl
    · exact segments_append_separator (s := "/") (by decide) "@" rest
    · exact segments_append_separator (s := "/") (by decide) "~" rest
  rw [hlibrary, List.head?_cons, ne_eq, Option.some_inj] at hat htilde
  rw [hlibrary, hsegments, List.cons_prefix_cons]
  rintro ⟨heq, -⟩
  split_ifs at heq
  · exact hat heq
  · exact htilde heq

end Profile

/-! ### Reports without some dependencies -/

/-- The graph without some of its dependencies. -/
def ModuleGraph.without (graph : ModuleGraph) (drop : Dependency → Bool) : ModuleGraph :=
  { graph with
    modules := graph.modules.map fun m =>
      { m with dependencies := m.dependencies.filter fun d => !drop d } }

lemma ModuleGraph.layerAt?_without (graph : ModuleGraph) (drop : Dependency → Bool)
    (path : String) : (graph.without drop).layerAt? path = graph.layerAt? path := by
  simp only [layerAt?, module?, without, ← List.map_reverse, List.find?_map, Function.comp_def]
  cases graph.modules.reverse.find? fun m => m.path == path <;> rfl

namespace Check

open Language.TypeScript

variable {graph : ModuleGraph} {drop : Dependency → Bool}

lemma misuse?_without (role : Role) (d : Dependency) :
    misuse? (graph.without drop) role d = misuse? graph role d := by
  simp only [misuse?, targetRole?, ModuleGraph.layerAt?_without]
  rfl

/-- Dependencies that are no misuse can be left out. -/
lemma antiPatterns_without (severity : Severity)
    (h : ∀ d, drop d = true → ∀ role, misuse? graph role d = none) :
    antiPatterns severity (graph.without drop) = antiPatterns severity graph := by
  have hmodule : ∀ m : SourceModule, antiPatternsIn severity (graph.without drop)
      { m with dependencies := m.dependencies.filter fun d => !drop d } =
        antiPatternsIn severity graph m := by
    intro m
    simp only [antiPatternsIn, misuse?_without, List.filterMap_filter]
    congr 1
    refine List.filterMap_congr fun d _ => ?_
    cases hdrop : drop d with
    | false => rfl
    | true => rw [h d hdrop]; rfl
  rw [antiPatterns, ModuleGraph.without, List.flatMap_map]
  exact List.flatMap_congr fun m _ => hmodule m

/-- An import that is not resolved is a misuse if and only if it starts with the name of a library
that the module must not use. -/
lemma isSome_misuse?_iff {d : Dependency} (hd : d.isResolved = false) (role : Role) :
    (misuse? graph role d).isSome = true ↔
      ∃ pattern ∈ (Profile.ofEcosystem graph.ecosystem).forbidden role,
        Profile.library pattern <+: Name.segments d.target := by
  have huses : ∀ patterns ∈ (Profile.ofEcosystem graph.ecosystem).lists,
      ((Profile.firstCovering? d.target patterns).isSome = true ↔
        ∃ pattern ∈ patterns, Profile.library pattern <+: Name.segments d.target) :=
    fun patterns hpatterns => Profile.isSome_firstCovering?_iff hpatterns d.target
  simp only [Profile.lists, List.forall_mem_cons] at huses
  obtain ⟨hdata, hviews, hplatform, -⟩ := huses
  cases role with
  | presentation => simp [misuse?, hd, Profile.forbidden, ← hdata]
  | stateHolder => simp [misuse?, hd, Profile.forbidden, ← hviews]
  | domain => simp [misuse?, hd, Profile.forbidden, ← hplatform]
  | data => simp [misuse?, Profile.forbidden]
  | other => simp [misuse?, Profile.forbidden]

lemma misuse?_eq_none {d : Dependency} (hd : d.isResolved = false)
    (htarget : ∀ pattern ∈ (Profile.ofEcosystem graph.ecosystem).patterns,
      ¬ Profile.library pattern <+: Name.segments d.target) (role : Role) :
    misuse? graph role d = none := by
  rw [← Option.not_isSome_iff_eq_none, isSome_misuse?_iff hd]
  rintro ⟨pattern, hpattern, hlibrary⟩
  refine htarget pattern ?_ hlibrary
  rw [Profile.patterns, Profile.lists]
  cases role <;> simp_all [Profile.forbidden]

/-- A specifier, local or not, is taken for a library if and only if its segments start with those
of the library; the dots and slashes at its start make no segments.  A specifier that is counted
from the project's sources never is.  An import that leads nowhere is reported as a misuse if and
only if it starts with the name of a library that the module must not use.  So local imports that
start with the name of no library make no difference to the reports. -/
theorem antiPatterns_localSpecifiers (graph : ModuleGraph)
    (hgraph : graph.ecosystem = .typescript) :
    (∀ specifier, ∀ patterns ∈ Profile.typescript.lists,
      (Profile.firstCovering? specifier patterns = none ↔
        ∀ pattern ∈ patterns, ¬ Profile.library pattern <+: Name.segments specifier)) ∧
    (∀ start ∈ rootAliases, ∀ rest, ∀ patterns ∈ Profile.typescript.lists,
      Profile.firstCovering? (start ++ rest) patterns = none) ∧
    (∀ d : Dependency, d.isUnresolved = true →
      ∀ role, (misuse? graph role d).isSome = true ↔
        ∃ pattern ∈ Profile.typescript.forbidden role,
          Profile.library pattern <+: Name.segments d.target) ∧
    ∀ (severity : Severity) (drop : Dependency → Bool),
      (∀ d, drop d = true → d.isUnresolved = true ∧ isLocalSpecifier d.target = true ∧
        ∀ pattern ∈ Profile.typescript.patterns,
          ¬ Profile.library pattern <+: Name.segments d.target) →
      antiPatterns severity (graph.without drop) = antiPatterns severity graph := by
  have hprofile : Profile.typescript = Profile.ofEcosystem graph.ecosystem := by
    rw [hgraph]
    rfl
  have hresolved : ∀ d : Dependency, d.isUnresolved = true → d.isResolved = false := by
    intro d hunresolved
    rw [Dependency.isUnresolved, beq_iff_eq] at hunresolved
    rw [Dependency.isResolved, hunresolved]
    rfl
  refine ⟨fun specifier patterns hpatterns => ?_, fun start hstart rest patterns hpatterns => ?_,
    fun d hunresolved role => ?_, fun severity drop hdrop => ?_⟩
  · exact Profile.firstCovering?_eq_none_iff (hprofile ▸ hpatterns) specifier
  · rw [Profile.firstCovering?_eq_none_iff (hprofile ▸ hpatterns)]
    intro p hp
    exact Profile.not_library_prefix_of_alias (by simpa [rootAliases] using hstart) rest
      (List.mem_flatten_of_mem hpatterns hp)
  · rw [hprofile]
    exact isSome_misuse?_iff (hresolved d hunresolved) role
  · refine antiPatterns_without severity fun d hd role => ?_
    obtain ⟨hunresolved, -, htarget⟩ := hdrop d hd
    exact misuse?_eq_none (hresolved d hunresolved) (hprofile ▸ htarget) role

/-- A view whose only import leads nowhere. -/
def cartGraph (target : String) : ModuleGraph where
  ecosystem := .typescript
  layers := []
  modules :=
    [{ path := "src/views/Cart.tsx", layer := some "views"
       dependencies :=
        [⟨"src/views/Cart.tsx", target, 1, "import api from '" ++ target ++ "'", .unresolved⟩] }]

/-- The name of a library does no harm behind a directory or an alias. -/
theorem antiPatterns_localSpecifiers_cart :
    let graph := cartGraph "../api/axios"
    let drop : Dependency → Bool := fun d => d.isUnresolved && d.target == "../api/axios"
    isLocalSpecifier "../api/axios" = true ∧
      Profile.firstCovering? "../api/axios" Profile.typescript.dataAccess = none ∧
      Profile.firstCovering? "@/axios" Profile.typescript.dataAccess = none ∧
      (∀ m ∈ graph.modules, ∀ d ∈ m.dependencies,
        d.isUnresolved = true ∧ (misuse? graph .presentation d).isSome = false) ∧
      (graph.without drop).modules.flatMap SourceModule.dependencies = [] ∧
      antiPatterns .warning (graph.without drop) = antiPatterns .warning graph := by
  intro graph drop
  obtain ⟨hcovers, halias, hmisuse, hdrop⟩ := antiPatterns_localSpecifiers graph rfl
  have hlocal : isLocalSpecifier "../api/axios" = true := by decide +kernel
  have hlibrary : ∀ pattern ∈ Profile.typescript.patterns,
      ¬ Profile.library pattern <+: Name.segments "../api/axios" := by decide +kernel
  have hdata : Profile.typescript.dataAccess ∈ Profile.typescript.lists := List.mem_cons_self
  refine ⟨hlocal, ?_, ?_, fun m hm d hd => ?_, by decide +kernel,
    hdrop .warning drop fun d hd => ?_⟩
  · exact (hcovers _ _ hdata).2 fun p hp => hlibrary p (List.mem_flatten_of_mem hdata hp)
  · exact halias "@/" (by decide) "axios" _ hdata
  · obtain rfl := List.mem_singleton.1 hm
    obtain rfl := List.mem_singleton.1 hd
    refine ⟨rfl, ?_⟩
    rw [← Bool.not_eq_true, hmisuse _ rfl]
    exact fun ⟨p, hp, hstart⟩ => hlibrary p (List.mem_flatten_of_mem hdata hp) hstart
  · obtain ⟨hunresolved, htarget⟩ := Bool.and_eq_true_iff.1 hd
    rw [beq_iff_eq.1 htarget]
    exact ⟨hunresolved, hlocal, hlibrary⟩

/-- A local import that starts with the name of a library is reported as a use of the library. -/
theorem antiPatterns_localSpecifiers_axios :
    isLocalSpecifier "./axios" = true ∧
      Profile.firstCovering? "./axios" Profile.typescript.dataAccess = some "axios" ∧
      (antiPatterns .warning (cartGraph "./axios")).map Violation.message =
        ["Presentation module imports data-access dependency './axios'"] := by
  decide +kernel

end Check

end Strata

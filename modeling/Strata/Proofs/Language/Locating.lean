import Mathlib.Data.List.Find
import Strata.Ecosystem
import Strata.Language.TypeScript.Outline
import Strata.Proofs.Path.Lookup

/-!
# Locating imported files in a moved tree

The candidates for a path are its variants with other endings, and index files.  They move with the
path, so what an import of a file is found to mean does not depend on where the analysed tree lies,
for imports whose paths are settled: those that lead below the analysed directory, or beside it
under another name.
-/

namespace Strata

open Strata.Text

/-! ### Endings of paths -/

/-- A component as it is shown. -/
def Part.asShown : Part → Part
  | name text => name text.shown
  | part => part

namespace Path

variable {ending : String} {path rest : Path}

lemma addEnding_cons (ending : String) (part : Part) (hne : path ≠ []) :
    addEnding ending (part :: path) = part :: addEnding ending path := by
  obtain ⟨next, rest, rfl⟩ := List.exists_cons_of_ne_nil hne
  cases part <;> rfl

lemma addEnding_concat (ending : String) (init : Path) (name : FileName) :
    addEnding ending (init ++ [.name name]) = init ++ [.name (name.append ending)] := by
  induction init with
  | nil => rfl
  | cons part init ih =>
    rw [List.cons_append, addEnding_cons ending part (by simp), ih, List.cons_append]

lemma dropEnding?_cons (ending : String) (part : Part) (hne : path ≠ []) :
    dropEnding? ending (part :: path) = (dropEnding? ending path).map (part.asShown :: ·) := by
  obtain ⟨next, rest, rfl⟩ := List.exists_cons_of_ne_nil hne
  cases part <;> rfl

/-- A path has an ending if its last component is a name that is shown with it. -/
lemma exists_of_dropEnding? (h : dropEnding? ending path = some rest) :
    ∃ (init : Path) (name : FileName) (stem : String), path = init ++ [.name name] ∧
      name.shown = stem ++ ending ∧ rest = init.map Part.asShown ++ [.name stem] := by
  induction path generalizing rest with
  | nil => cases h
  | cons part path ih =>
    by_cases hne : path = []
    · subst hne
      cases part with
      | name name =>
        obtain ⟨stem, hstem, rfl⟩ := Option.map_eq_some_iff.1 h
        exact ⟨[], name, stem, rfl, beforeEnd?_eq_some_iff.1 hstem, rfl⟩
      | root => cases h
      | here => cases h
      | up => cases h
    · rw [dropEnding?_cons ending part hne] at h
      obtain ⟨below, hbelow, rfl⟩ := Option.map_eq_some_iff.1 h
      obtain ⟨init, name, stem, rfl, hname, rfl⟩ := ih hbelow
      exact ⟨part :: init, name, stem, rfl, hname, rfl⟩

end Path

namespace Language.TypeScript

/-! ### Candidates move with the path -/

/-- The candidates besides index files. -/
def plainCandidates (path : Path) : List Path :=
  [path] ++ (scriptEndings.filterMap fun ending => path.dropEnding? ending).flatMap withEndings ++
    withEndings path

lemma candidates_eq (tree : FileTree) (path : Path) :
    candidates tree path = plainCandidates path ++
      if tree.isDirAt path then withEndings (path ++ [.name "index"]) else [] :=
  rfl

section Cons

variable {part : Part} {path : Path}

lemma withEndings_cons (part : Part) (hne : path ≠ []) :
    withEndings (part :: path) = (withEndings path).map (part :: ·) := by
  rw [withEndings, withEndings, List.map_map]
  exact List.map_congr_left fun ending _ => Path.addEnding_cons ending part hne

lemma plainCandidates_cons (hpart : part.asShown = part) (hne : path ≠ []) :
    plainCandidates (part :: path) = (plainCandidates path).map (part :: ·) := by
  have hscripts : (scriptEndings.filterMap fun ending => Path.dropEnding? ending (part :: path)) =
      (scriptEndings.filterMap fun ending => path.dropEnding? ending).map (part :: ·) := by
    rw [List.map_filterMap]
    refine List.filterMap_congr fun ending _ => ?_
    rw [Path.dropEnding?_cons ending part hne, hpart]
  have hstems : ∀ stem ∈ scriptEndings.filterMap fun ending => path.dropEnding? ending,
      withEndings (part :: stem) = (withEndings stem).map (part :: ·) := by
    intro stem hstem
    obtain ⟨script, -, hdrop⟩ := List.mem_filterMap.1 hstem
    obtain ⟨init, name, rest, -, -, rfl⟩ := Path.exists_of_dropEnding? hdrop
    exact withEndings_cons part (by simp)
  rw [plainCandidates, hscripts, List.flatMap_map, List.flatMap_congr hstems,
    withEndings_cons part hne, plainCandidates, List.map_append, List.map_append, List.map_flatMap,
    List.map_singleton]

end Cons

/-! ### The names of candidates -/

/-- How the names of a candidate come from those of the path. -/
inductive Derived (names : List FileName) : List FileName → Prop where
  /-- The path itself. -/
  | same : Derived names names
  /-- The last name has an ending behind it. -/
  | renamed {init : List FileName} {last : FileName} {ending : String}
      (hnames : names = init ++ [last]) (h : ending ∈ candidateEndings) :
      Derived names (init ++ [last.append ending])
  /-- The last name, as it is shown, has another ending in place of that of a script. -/
  | compiled {init : List FileName} {last : FileName} {stem script ending : String}
      (hnames : names = init ++ [last]) (hlast : last.shown = stem ++ script)
      (h : ending ∈ candidateEndings) :
      Derived names (init.map (fun name => .text name.shown) ++ [.text (stem ++ ending)])
  /-- A name is added. -/
  | inside {ending : String} (h : ending ∈ candidateEndings) :
      Derived names (names ++ [.text ("index" ++ ending)])

section Derived

variable {names found : List FileName}

lemma Derived.ne_nil (h : Derived names found) (hne : names ≠ []) : found ≠ [] := by
  cases h with
  | same => exact hne
  | renamed | compiled | inside => simp

/-- No ending makes the name `proj`, and no name is shown so but itself. -/
lemma Derived.head?_ne_proj (h : Derived names found) (hne : names ≠ [])
    (hproj : names.head? ≠ some "proj") : found.head? ≠ some "proj" := by
  have hending : ∀ {last : FileName} {ending : String}, ending ∈ candidateEndings →
      last.append ending ≠ "proj" := by
    intro last ending h heq
    have hdot : ∀ ending ∈ candidateEndings, 0x2E ∈ Text.bytes ending := by decide
    have hmem : 0x2E ∈ (last.append ending).bytes := by
      rw [FileName.bytes_append]
      exact List.mem_append_right _ (hdot ending h)
    rw [heq] at hmem
    exact absurd hmem (by decide)
  obtain ⟨first, rest, rfl⟩ := List.exists_cons_of_ne_nil hne
  have hfirst : first ≠ "proj" := fun heq => hproj (congrArg some heq)
  cases h with
  | same => exact hproj
  | inside h => exact hproj
  | @renamed init last ending hnames h =>
    cases init with
    | nil => exact fun heq => hending h (Option.some.inj heq)
    | cons other init =>
      obtain ⟨rfl, -⟩ := List.cons.inj hnames
      exact hproj
  | @compiled init last stem script ending hnames hlast h =>
    cases init with
    | nil =>
      intro heq
      have hname : (FileName.text stem).append ending = "proj" := Option.some.inj heq
      exact hending h hname
    | cons other init =>
      obtain ⟨rfl, -⟩ := List.cons.inj hnames
      intro heq
      have hshown : first.shown = "proj" := FileName.text.inj (Option.some.inj heq)
      exact hfirst (FileName.eq_text_of_shown_eq (by decide) hshown)

lemma exists_of_mem_plainCandidates {candidate : Path}
    (h : candidate ∈ plainCandidates (names.map .name)) (hne : names ≠ []) :
    ∃ found, candidate = found.map .name ∧ Derived names found := by
  rw [plainCandidates, List.mem_append, List.mem_append, List.mem_singleton] at h
  rcases h with (rfl | h) | h
  · exact ⟨names, rfl, .same⟩
  · -- the ending of a script is replaced
    obtain ⟨rest, hrest, hcandidate⟩ := List.mem_flatMap.1 h
    obtain ⟨script, -, hdrop⟩ := List.mem_filterMap.1 hrest
    obtain ⟨ending, hending, rfl⟩ := List.mem_map.1 hcandidate
    obtain ⟨init, last, stem, hpath, hlast, rfl⟩ := Path.exists_of_dropEnding? hdrop
    obtain ⟨before, after, rfl, rfl, hafter⟩ := List.map_eq_append_iff.1 hpath
    obtain ⟨name, rfl, hname⟩ := List.map_eq_singleton_iff.1 hafter
    obtain rfl : name = last := Part.name.inj hname
    refine ⟨_, ?_, .compiled rfl hlast hending⟩
    rw [Path.addEnding_concat, List.map_append, List.map_map, List.map_map]
    rfl
  · obtain ⟨ending, hending, rfl⟩ := List.mem_map.1 h
    obtain ⟨init, last, rfl⟩ := (List.eq_nil_or_concat' names).resolve_left hne
    refine ⟨_, ?_, .renamed rfl hending⟩
    rw [List.map_append, List.map_singleton, Path.addEnding_concat, List.map_append,
      List.map_singleton]

lemma exists_of_mem_candidates {tree : FileTree} {candidate : Path}
    (h : candidate ∈ candidates tree (names.map .name)) (hne : names ≠ []) :
    ∃ found, candidate = found.map .name ∧ Derived names found := by
  rw [candidates_eq, List.mem_append] at h
  rcases h with h | h
  · exact exists_of_mem_plainCandidates h hne
  · rw [List.mem_ite_nil_right] at h
    obtain ⟨ending, hending, rfl⟩ := List.mem_map.1 h.2
    refine ⟨_, ?_, .inside hending⟩
    rw [Path.addEnding_concat, List.map_append]
    rfl

end Derived

/-! ### What is found among the candidates -/

section Found

variable (tree : FileTree) {names : List FileName}

lemma candidates_inProj (hne : names ≠ []) :
    candidates tree.inProj (.name "proj" :: names.map .name) =
      (candidates tree (names.map .name)).map (.name "proj" :: ·) := by
  have hdir : tree.inProj.isDirAt (.name "proj" :: names.map .name) =
      tree.isDirAt (names.map .name) := by
    rw [FileTree.isDirAt, FileTree.isDirAt, FileTree.lookup_inProj tree hne]
  rw [candidates_eq, candidates_eq, hdir, plainCandidates_cons rfl (by simpa using hne),
    List.map_append, List.cons_append, withEndings_cons _ (by simp)]
  split <;> rfl

/-- In the moved tree the moved file is found. -/
lemma find?_candidates_inProj (hne : names ≠ []) :
    (candidates tree.inProj (.name "proj" :: names.map .name)).find? tree.inProj.isFileAt =
      ((candidates tree (names.map .name)).find? tree.isFileAt).map (.name "proj" :: ·) := by
  rw [candidates_inProj tree hne, List.find?_map]
  refine congrArg _ (List.find?_congr fun candidate hcandidate => ?_)
  obtain ⟨found, rfl, hderived⟩ := exists_of_mem_candidates hcandidate hne
  rw [Function.comp_apply, FileTree.isFileAt, FileTree.isFileAt,
    FileTree.lookup_inProj tree (hderived.ne_nil hne)]

/-- Nothing is found where there is nothing. -/
lemma find?_candidates_absent {part : Part} (hpart : part.asShown = part)
    (h : ∀ path, tree.Absent (part :: path)) {path : Path} (hne : path ≠ []) :
    (candidates tree (part :: path)).find? tree.isFileAt = none := by
  rw [candidates_eq, (h path).isDirAt_eq_false, if_neg (by simp), List.append_nil,
    plainCandidates_cons hpart hne, List.find?_eq_none]
  intro candidate hcandidate
  obtain ⟨other, -, rfl⟩ := List.mem_map.1 hcandidate
  rw [(h other).isFileAt_eq_false]
  simp

/-- Nothing is found at an absolute path. -/
lemma find?_candidates_root (path : Path) :
    (candidates tree (.root :: path)).find? tree.isFileAt = none := by
  by_cases hne : path = []
  · subst hne
    rw [candidates_eq, (tree.absent_root []).isDirAt_eq_false, if_neg (by simp), List.append_nil,
      List.find?_eq_none]
    have hroot : ∀ candidate ∈ plainCandidates [.root], candidate.head? = some .root := by decide
    intro candidate hcandidate
    obtain ⟨rest, rfl⟩ := List.head?_eq_some_iff.1 (hroot candidate hcandidate)
    rw [(tree.absent_root rest).isFileAt_eq_false]
    simp
  · exact find?_candidates_absent tree rfl tree.absent_root hne

/-- Beside `proj` nothing is found. -/
lemma find?_candidates_beside (hne : names ≠ []) (hproj : names.head? ≠ some "proj") :
    (candidates tree.inProj (names.map .name)).find? tree.inProj.isFileAt = none := by
  rw [List.find?_eq_none]
  intro candidate hcandidate
  obtain ⟨found, rfl, hderived⟩ := exists_of_mem_candidates hcandidate hne
  rw [(tree.absent_beside (hderived.head?_ne_proj hne hproj)).isFileAt_eq_false]
  simp

end Found

/-! ### Imports of moved files -/

/-- An absolute path leads nowhere. -/
lemma locate?_of_absolute (tree : FileTree) {path : Path} (h : path.head? = some .root)
    (base : Path) : locate? tree (Path.join base path) = none := by
  obtain ⟨rest, hrest⟩ := Path.exists_normalize_eq_root h
  rw [locate?, Path.join, if_pos h, hrest]
  exact find?_candidates_root tree rest

section Destination

variable (tree : FileTree) {path : Path} {names : List FileName}

/-- A path to something below the directory means the moved file in the moved tree. -/
lemma locate?_below (h : path.destination? = some (.below names)) (hne : names.reverse ≠ []) :
    locate? tree.inProj (Path.join [.name "proj"] path) =
        (locate? tree (Path.join [.here] path)).map (.name "proj" :: ·) ∧
      ∀ found ∈ locate? tree (Path.join [.here] path), ∃ names : List FileName,
        found = names.map .name := by
  have hdot : ((Path.Destination.below names).kept [] [.up]).reverse = names.reverse.map .name := by
    simp [Path.Destination.kept]
  have hproj : ((Path.Destination.below names).kept [.name "proj"] []).reverse =
      .name "proj" :: names.reverse.map .name := by
    simp [Path.Destination.kept]
  rw [locate?, locate?, Path.normalize_dot h, Path.normalize_proj h, hdot, hproj]
  refine ⟨find?_candidates_inProj tree hne, fun found hfound => ?_⟩
  obtain ⟨names, hnames, -⟩ := exists_of_mem_candidates (List.mem_of_find?_eq_some hfound) hne
  exact ⟨names, hnames⟩

/-- A path to something beside the directory means nothing, in the tree and in the moved tree. -/
lemma locate?_beside (h : path.destination? = some (.beside names)) (hne : names.reverse ≠ [])
    (hproj : names.reverse.head? ≠ some "proj") :
    locate? tree (Path.join [.here] path) = none ∧
      locate? tree.inProj (Path.join [.name "proj"] path) = none := by
  have hdot : ((Path.Destination.beside names).kept [] [.up]).reverse =
      .up :: names.reverse.map .name := by
    simp [Path.Destination.kept]
  have hplain : ((Path.Destination.beside names).kept [.name "proj"] []).reverse =
      names.reverse.map .name := by
    simp [Path.Destination.kept]
  rw [locate?, locate?, Path.normalize_dot h, Path.normalize_proj h, hdot, hplain]
  exact ⟨find?_candidates_absent tree rfl tree.absent_up (by simpa using hne),
    find?_candidates_beside tree hne hproj⟩

end Destination

/-- What a settled path means moves with the tree, and is known by names. -/
lemma locate?_inProj (tree : FileTree) {path : Path} (hsettled : path.Settled) :
    locate? tree.inProj (Path.join [.name "proj"] path) =
        (locate? tree (Path.join [.here] path)).map (.name "proj" :: ·) ∧
      ∀ found ∈ locate? tree (Path.join [.here] path), ∃ names : List FileName,
        found = names.map .name := by
  rcases hsettled with habsolute | hsettled
  · rw [locate?_of_absolute _ habsolute, locate?_of_absolute _ habsolute]
    exact ⟨rfl, fun found hfound => by cases hfound⟩
  · obtain ⟨place, hplace, hplaced⟩ := (Option.any_eq_true _ _).1 hsettled
    cases place with
    | below names =>
      have hne : names.reverse ≠ [] := by simpa [Path.Destination.settled] using hplaced
      exact locate?_below tree hplace hne
    | beside names =>
      have hplaced : names ≠ [] ∧ names.getLast? ≠ some "proj" := by
        simpa [Path.Destination.settled] using hplaced
      obtain ⟨hdot, hproj⟩ := locate?_beside tree hplace (by simpa using hplaced.1)
        (by rw [List.head?_reverse]; exact hplaced.2)
      rw [hdot, hproj]
      exact ⟨rfl, fun found hfound => by cases hfound⟩

/-- A found file is shown the same way below either directory. -/
lemma relative?_inProj (names : List FileName) :
    Path.relative? [.name "proj"] (.name "proj" :: names.map .name) =
      Path.relative? [.here] (names.map .name) := by
  have hproj := Path.normalize_map_name ("proj" :: names)
  rw [List.map_cons] at hproj
  rw [Path.relative?, Path.relative?, hproj, Path.normalize_map_name]
  rfl

/-- The paths that a specifier can mean move with the directories that they are counted from. -/
lemma bases_join (root dir : Path) (specifier : String) :
    bases root (Path.join root dir) specifier = (bases [] dir specifier).map (Path.join root) := by
  unfold bases
  split
  · simp only [List.map_cons, List.map_nil, Path.nil_join, Path.join_assoc]
  · split
    · simp only [List.map_cons, List.map_nil, Path.nil_join]
    · simp only [List.map_cons, List.map_nil, Path.join_assoc]

/-- A search that gives changed answers throughout gives a changed answer. -/
lemma findSome?_eq_map {α β γ : Type} {f : α → Option β} {g : α → Option γ} {change : β → γ}
    {xs : List α} (h : ∀ x ∈ xs, g x = (f x).map change) :
    xs.findSome? g = (xs.findSome? f).map change := by
  induction xs with
  | nil => rfl
  | cons x xs ih =>
    rw [List.findSome?_cons, List.findSome?_cons, h x List.mem_cons_self,
      ih fun y hy => h y (List.mem_cons_of_mem _ hy)]
    cases f x <;> rfl

/-- A specifier means the same file wherever the tree lies, if its paths are settled. -/
lemma resolveSpecifier_inProj (tree : FileTree) {dir : Path} {specifier : String}
    (h : isLocalSpecifier specifier = true → ∀ path ∈ bases [] dir specifier, path.Settled) :
    resolveSpecifier tree.inProj [.name "proj"] (Path.join [.name "proj"] dir) specifier =
      resolveSpecifier tree [.here] (Path.join [.here] dir) specifier := by
  unfold resolveSpecifier
  split
  · rename_i hlocal
    have hlocated := fun path hpath => locate?_inProj tree (h hlocal path hpath)
    have hfind : (bases [] dir specifier).findSome?
          (locate? tree.inProj ∘ Path.join [.name "proj"]) =
        ((bases [] dir specifier).findSome? (locate? tree ∘ Path.join [.here])).map
          (.name "proj" :: ·) :=
      findSome?_eq_map fun path hpath => (hlocated path hpath).1
    rw [bases_join, bases_join, List.findSome?_map, List.findSome?_map, hfind]
    -- the same base is the first with a file, and the file is shown the same way
    cases hfound : (bases [] dir specifier).findSome? (locate? tree ∘ Path.join [.here]) with
    | none => rfl
    | some found =>
      obtain ⟨path, hpath, hsome⟩ := List.exists_of_findSome?_eq_some hfound
      obtain ⟨names, rfl⟩ := (hlocated path hpath).2 found hsome
      exact relative?_inProj names
  · rfl

/-! ### Outlines of moved files -/

/-- The paths that an import in the file with these names can mean are settled. -/
def SettledTarget (names : List FileName) : Target → Prop
  | .path specifier _ => isLocalSpecifier specifier = true →
      ∀ base ∈ bases [] (names.dropLast.map .name) specifier, base.Settled
  | .name _ | .wildcard _ | .relative _ _ _ => True

instance (names : List FileName) : (target : Target) → Decidable (SettledTarget names target)
  | .path specifier _ => inferInstanceAs (Decidable (isLocalSpecifier specifier = true →
      ∀ base ∈ bases [] (names.dropLast.map .name) specifier, base.Settled))
  | .name _ | .wildcard _ | .relative _ _ _ => .isTrue trivial

/-- The import made by a statement depends on nothing but what its specifier is found to mean. -/
lemma importOf?_congr {locate locate' : String → Option String} {statement : Node Kind}
    (h : ∀ entry ∈ importOf? locate statement, ∀ specifier resolved,
      entry.target = .path specifier resolved → locate' specifier = locate specifier) :
    importOf? locate' statement = importOf? locate statement := by
  unfold importOf? at h ⊢
  cases hsource : partsOf .source statement with
  | nil => rfl
  | cons source others =>
    simp only [hsource] at h ⊢
    by_cases hempty : unquote source.text = ""
    · rw [if_pos hempty, if_pos hempty]
    · rw [if_neg hempty] at h
      rw [if_neg hempty, if_neg hempty, h _ rfl _ _ rfl]

/-- The outline of a source file does not depend on where the tree lies, if the paths of its imports
are settled. -/
lemma outline_inProj (tree : FileTree) (names : List FileName) (path : String) (content : List Char)
    (h : ∀ entry ∈
        (outline tree [.here] ([.here] ++ names.dropLast.map .name) path content).imports,
      SettledTarget names entry.target) :
    outline tree.inProj [.name "proj"] ([.name "proj"] ++ names.dropLast.map .name) path content =
      outline tree [.here] ([.here] ++ names.dropLast.map .name) path content := by
  unfold outline at h ⊢
  rw [← Path.join_map_name] at h
  rw [← Path.join_map_name, ← Path.join_map_name]
  -- the outlines differ in their imports only
  refine congrArg (fun imports => { imports := imports, exports := _ : Outline })
    (List.filterMap_congr fun node hnode => ?_)
  split
  · rename_i hkind
    refine importOf?_congr fun entry hentry specifier resolved htarget => ?_
    have hsettled := h entry
      (List.mem_filterMap.2 ⟨node, hnode, by rw [if_pos hkind]; exact hentry⟩)
    rw [htarget] at hsettled
    exact resolveSpecifier_inProj tree hsettled
  · rfl

end Language.TypeScript

end Strata

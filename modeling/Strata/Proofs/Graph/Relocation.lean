import Strata.Analysis
import Strata.Proofs.Language.Locating
import Strata.Proofs.Walk.IgnoreFree

/-!
# Moving the analysed directory

A TypeScript project is analysed as the directory `.`, or as the directory `proj` of another one
that holds nothing else.  If the project has no ignore files, both analyses list the same files.
They also find the same dependencies, as long as no import of the project looks at it from outside:
the import `../proj/b` means a file only where the project is known to be named `proj`.
-/

namespace Strata.Analysis

open Strata.Text Strata.Language.TypeScript

/-- The files that an analysis of TypeScript sources reads, with their outlines. -/
def outlined (config : Config) (tree : FileTree) (root : Path) : List (List FileName × Outline) :=
  match Exclude.readAll config.exclude, tree.lookup root with
  | .ok excludes, .ok directory =>
    (Sources.list .typescript excludes [] tree root).filterMap fun names =>
      (outlineOf? .typescript tree root directory names).map fun outline => (names, outline)
  | _, _ => []

lemma outlines_nil (ecosystem : Ecosystem) (tree : FileTree) (root : Path) :
    outlines ecosystem tree root [] = [] := by
  unfold outlines
  split <;> rfl

/-- The outline of a file is the same wherever the tree lies. -/
lemma outlineOf?_inProj (tree directory : FileTree) (names : List FileName)
    (himports : ∀ outline ∈ outlineOf? .typescript tree [.here] directory names,
      ∀ entry ∈ outline.imports, SettledTarget names entry.target) :
    outlineOf? .typescript tree.inProj [.name "proj"] directory names =
      outlineOf? .typescript tree [.here] directory names := by
  unfold outlineOf? at himports ⊢
  cases htext : textOf? directory names with
  | none => rw [Option.map_none, Option.map_none]
  | some text =>
    rw [htext] at himports
    exact congrArg some (outline_inProj tree names _ _ (himports _ rfl))

/-- The outlines of the listed files are the same wherever the tree lies. -/
lemma outlines_inProj {excludes : List (List Exclude.Token)} {tree : FileTree}
    (htree : tree.ignoreFree = true)
    (himports : ∀ names ∈ Sources.list .typescript excludes [] tree [.here],
      ∀ directory, tree.lookup [.here] = .ok directory →
        ∀ outline ∈ outlineOf? .typescript tree [.here] directory names,
          ∀ entry ∈ outline.imports, SettledTarget names entry.target) :
    outlines .typescript tree.inProj [.name "proj"]
        (Sources.list .typescript excludes [] tree.inProj [.name "proj"]) =
      outlines .typescript tree [.here] (Sources.list .typescript excludes [] tree [.here]) := by
  rw [← Sources.list_inProj excludes htree]
  cases tree with
  | file content =>
    -- a file is no project, and nothing is listed below it
    have hlist : Sources.list .typescript excludes [] (.file content) [.here] = [] := by
      rw [Sources.list, FileTree.place_dot_file]
    rw [hlist, outlines_nil, outlines_nil]
  | dir entries =>
    have hdot : (FileTree.dir entries).lookup [.here] = .ok (.dir entries) := by
      rw [FileTree.lookup, FileTree.place_dot]
      rfl
    have hproj : (FileTree.dir entries).inProj.lookup [.name "proj"] = .ok (.dir entries) := by
      rw [FileTree.lookup, FileTree.place_inProj]
      rfl
    unfold outlines
    rw [hdot, hproj]
    refine List.filterMap_congr fun names hnames => ?_
    rw [outlineOf?_inProj _ _ names (himports names hnames _ hdot)]

/-- Building the modules of a TypeScript project without ignore files gives the same whether the
project is the directory `.` or the directory `proj` with nothing beside it, if every local import
names something below the project or something other than `proj` beside it. -/
theorem buildModules_inProj (config : Config) {tree : FileTree} (htree : tree.ignoreFree = true)
    (himports : ∀ file ∈ outlined config tree (Path.parse "."),
      ∀ entry ∈ file.2.imports, SettledTarget file.1 entry.target) :
    buildModules .typescript config [] tree.inProj (Path.parse "proj") =
      buildModules .typescript config [] tree (Path.parse ".") := by
  have hproj : Path.parse "proj" = [.name "proj"] := by decide
  have hdot : Path.parse "." = [.here] := by decide
  rw [hproj, hdot]
  rw [hdot] at himports
  unfold buildModules
  cases hexcludes : Exclude.readAll config.exclude with
  | error error => rfl
  | ok excludes =>
    dsimp only
    rw [outlines_inProj htree]
    intro names hnames directory hdirectory outline houtline
    refine himports (names, outline) ?_
    rw [outlined, hexcludes, hdirectory]
    exact List.mem_filterMap.2 ⟨names, hnames, by rw [houtline]; rfl⟩

/-- A project whose imports lead up and down in it, to a neighbour and to a package. -/
def movableProject : FileTree :=
  .dir [("a.ts", .file (.text
      "import { b } from \"./lib/b\"\nimport \"../other/x\"\nimport \"react\"")),
    ("lib", .dir [("b.ts", .file (.text "export * from \"../a.js\"; import \"@/lib\"")),
      ("index.tsx", .file (.text "export const c = 1"))])]

/-- A configuration for it. -/
def plainConfig : Config :=
  { ecosystem := some .typescript, layers := [{ name := "app", pattern := "**" }] }

theorem buildModules_inProj_movableProject :
    movableProject.ignoreFree = true ∧
      (∀ file ∈ outlined plainConfig movableProject (Path.parse "."),
        ∀ entry ∈ file.2.imports, SettledTarget file.1 entry.target) ∧
      buildModules .typescript plainConfig [] movableProject.inProj (Path.parse "proj") =
        buildModules .typescript plainConfig [] movableProject (Path.parse ".") := by
  have htree : movableProject.ignoreFree = true := by decide +kernel
  have himports : ∀ file ∈ outlined plainConfig movableProject (Path.parse "."),
      ∀ entry ∈ file.2.imports, SettledTarget file.1 entry.target := by decide +kernel
  exact ⟨htree, himports, buildModules_inProj plainConfig htree himports⟩

/-- A project that imports one of its files by the name of its own directory. -/
def climbingProject : FileTree :=
  .dir [("a.ts", .file (.text "import \"../proj/b\"")), ("b.ts", .file (.text ""))]

/-- An import that climbs out of the project and back into it finds a file only where the project
lies under the name that it uses. -/
theorem buildModules_inProj_climbingProject :
    climbingProject.ignoreFree = true ∧ plainConfig.problem? = none ∧
      buildModules .typescript plainConfig [] climbingProject.inProj (Path.parse "proj") ≠
        buildModules .typescript plainConfig [] climbingProject (Path.parse ".") := by
  refine ⟨by decide +kernel, by decide +kernel, fun heq => ?_⟩
  have htargets := congrArg (fun modules => modules.toOption.map
    (·.map fun m => m.dependencies.map fun d => (d.target, d.kind))) heq
  exact absurd htargets (by decide +kernel)

end Strata.Analysis

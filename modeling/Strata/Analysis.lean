import Strata.Check.Rule
import Strata.Config
import Strata.Graph.Resolution
import Strata.Language
import Strata.Walk.Sources

/-!
# Analyses

From a configuration and a file tree to a report: the source files below the root are listed and
outlined, their imports resolved, each file given its layer, and the rules run on the result.
-/

namespace Strata

open Strata.Text

/-- Why an analysis cannot be made. -/
inductive AnalysisError where
  /-- The configuration is not accepted. -/
  | invalid (problem : ConfigProblem)
  /-- There is no directory at the root. -/
  | rootNotFound (root : String)
  /-- A glob for files to leave out is at fault. -/
  | badExclude (error : Exclude.GlobError)
deriving DecidableEq, Repr

/-- What is said about it. -/
def AnalysisError.message : AnalysisError → String
  | invalid problem => problem.message
  | rootNotFound root => "Analysis root not found: " ++ root
  | badExclude error => "Invalid exclude pattern: " ++ error.message

namespace Analysis

/-- The text of a file below a directory. -/
def textOf? (directory : FileTree) (names : List FileName) : Option String :=
  match directory.at? names with
  | some (.file content) => content.text?
  | _ => none

/-- The outline of a file below the root, which is the given directory; nothing if the file holds no
text. -/
def outlineOf? (ecosystem : Ecosystem) (tree : FileTree) (root : Path) (directory : FileTree)
    (names : List FileName) : Option Outline :=
  (textOf? directory names).map fun text =>
    let above := root ++ names.dropLast.map .name
    ecosystem.outline tree root above (FileName.path names) text.toList

/-- The outlines of some files below the root; files that hold no text are passed over. -/
def outlines (ecosystem : Ecosystem) (tree : FileTree) (root : Path)
    (files : List (List FileName)) : List OutlinedFile :=
  match tree.lookup root with
  | .error _ => []
  | .ok directory =>
    files.filterMap fun names =>
      (outlineOf? ecosystem tree root directory names).map fun outline =>
        (FileName.path names, outline)

/-- The index that imports are resolved with. -/
def indexOf (ecosystem : Ecosystem) (files : List OutlinedFile) : Index :=
  if ecosystem.usesIndex then Index.ofFiles files else {}

/-- A file as the checks see it. -/
def moduleOf (layers : List Layer) (index : Index) (file : OutlinedFile) : SourceModule where
  path := file.1
  layer := Layer.assign layers file.1
  dependencies := Resolution.dependencies index file
  exports := file.2.exports
  signals := file.2.signals

/-- The modules that some files make. -/
def modulesOf (ecosystem : Ecosystem) (layers : List Layer) (files : List OutlinedFile) :
    List SourceModule :=
  files.map (moduleOf layers (indexOf ecosystem files))

/-- The modules below the root, in the order of their paths. -/
def buildModules (ecosystem : Ecosystem) (config : Config) (around : List Ignore.Scope)
    (tree : FileTree) (root : Path) : Except AnalysisError (List SourceModule) :=
  match Exclude.readAll config.exclude with
  | .error error => .error (.badExclude error)
  | .ok excludes =>
    .ok (modulesOf ecosystem config.layers
      (outlines ecosystem tree root (Sources.list ecosystem excludes around tree root)))

/-- The ecosystem to analyse, if the configuration is accepted and the root is a directory. -/
def prepare (config : Config) (tree : FileTree) (root : String) :
    Except AnalysisError Ecosystem :=
  match config.problem?, config.ecosystem with
  | some problem, _ => .error (.invalid problem)
  | none, none => .error (.invalid .noEcosystem)
  | none, some ecosystem =>
    if tree.isDirAt (Path.parse root) then .ok ecosystem else .error (.rootNotFound root)

/-- The report on some modules. -/
def report (ecosystem : Ecosystem) (config : Config) (modules : List SourceModule) : Summary :=
  Summary.ofRules (Rule.switchedOn config.isOn) ⟨ecosystem, config.layers, modules⟩

end Analysis

/-- The outcome of an analysis. -/
structure Analysis where
  /-- The modules found. -/
  modules : List SourceModule
  /-- The report on them. -/
  summary : Summary
deriving Repr

/-- Analyses what lies below the root of a tree; the rules of ignore files in the directories
around the tree are given as `around`. -/
def Analysis.run (config : Config) (around : List Ignore.Scope) (tree : FileTree)
    (root : String) : Except AnalysisError Analysis := do
  let ecosystem ← prepare config tree root
  let modules ← buildModules ecosystem config around tree (Path.parse root)
  return ⟨modules, report ecosystem config modules⟩

end Strata

import Strata.FileTree

/-!
# Locating imported files

A TypeScript import names a file by a specifier.  A local specifier (`./a`, `../b`, `/c`, `@/d`)
points into the project; it may leave out the extension, name a directory whose index file is
meant, or name the script that a source is compiled to.  The first file that exists among the
candidates is the one imported.
-/

namespace Strata.Language.TypeScript

open Strata.Text

/-- The endings tried, in order. -/
def candidateEndings : List String := [".ts", ".tsx", ".js", ".jsx", ".mjs", ".cjs", ".d.ts"]

/-- The endings of compiled scripts. -/
def scriptEndings : List String := [".js", ".jsx", ".mjs", ".cjs"]

/-- The starts of specifiers that are counted from the project's sources. -/
def rootAliases : List String := ["@/", "~/"]

/-- Whether a specifier points into the project. -/
def isLocalSpecifier (specifier : String) : Bool :=
  specifier == "." || specifier == ".." || hasStart "./" specifier || hasStart "../" specifier ||
    hasStart "/" specifier || rootAliases.any fun start => hasStart start specifier

/-- The paths that a local specifier can mean, from the analysed root and the directory of the
importing file. -/
def bases (root dir : Path) (specifier : String) : List Path :=
  match rootAliases.findSome? fun start => afterStart? start specifier with
  | some rest =>
    [Path.join (Path.join root [.name "src"]) (Path.parse rest), Path.join root (Path.parse rest)]
  | none =>
    match afterStart? "/" specifier with
    | some rest => [Path.join root (Path.parse rest)]
    | none => [Path.join dir (Path.parse specifier)]

/-- A path with each of the endings. -/
def withEndings (path : Path) : List Path :=
  candidateEndings.map fun ending => path.addEnding ending

/-- The files that a path can mean, in the order in which they are tried. -/
def candidates (tree : FileTree) (path : Path) : List Path :=
  [path] ++
    (scriptEndings.filterMap fun ending => path.dropEnding? ending).flatMap withEndings ++
    withEndings path ++
    (if tree.isDirAt path then withEndings (path ++ [.name "index"]) else [])

/-- The file that a path means. -/
def locate? (tree : FileTree) (path : Path) : Option Path :=
  (candidates tree (Path.normalize path)).find? tree.isFileAt

/-- The file, shown relative to the analysed root, that a specifier in a file of the directory
`dir` means. -/
def resolveSpecifier (tree : FileTree) (root dir : Path) (specifier : String) : Option String :=
  if isLocalSpecifier specifier then
    match (bases root dir specifier).findSome? (locate? tree) with
    | some found => Path.relative? root found
    | none => none
  else none

end Strata.Language.TypeScript

import Strata.Language.TypeScript.Grammar
import Strata.Language.TypeScript.Locate
import Strata.Outline

/-!
# TypeScript sources

Imports and exports of a TypeScript or JavaScript file.  Only statements at the top level count,
and a file that is not well formed has an empty outline.
-/

namespace Strata.Language.TypeScript

open Strata.Text

/-- Whether elements may occur in the file at a path. -/
def allowsElements (path : String) : Bool :=
  hasEnd ".tsx" path || hasEnd ".jsx" path

/-- A literal without the quotation marks around it. -/
def unquote (text : List Char) : String :=
  let isQuote (c : Char) : Bool := c == '"' || c == '\'' || c == '\x60'
  String.ofList (dropEndWhile isQuote (text.dropWhile isQuote))

/-- The parts of one kind directly inside a statement. -/
def partsOf (kind : Kind) (statement : Node Kind) : List (Node Kind) :=
  statement.inner.filter fun node => node.kind == kind

/-- The import made by a statement that names another file; `locate` finds the file. -/
def importOf? (locate : String → Option String) (statement : Node Kind) : Option Import :=
  match partsOf .source statement with
  | [] => none
  | source :: _ =>
    let specifier := unquote source.text
    if specifier = "" then none
    else
      some
        { line := statement.line
          statement := String.ofList (collapse statement.text)
          target := .path specifier (locate specifier) }

/-- The names exported by an export statement. -/
def exportsOf (statement : Node Kind) : List Export :=
  let names :=
    if (partsOf .defaultWord statement).isEmpty then
      (partsOf .declared statement).map (fun node => String.ofList node.text) ++
        (partsOf .exported statement).map (fun node => unquote node.text)
    else ["default"]
  names.map fun name => { name, line := statement.line }

/-- The import and export statements of a text, or nothing if it is not well formed. -/
def statements (elements : Bool) (content : List Char) : List (Node Kind) :=
  ((grammar elements).parse? .program content).getD []

/-- The outline of a TypeScript file in the directory `dir`, at a path below the root of a tree. -/
def outline (tree : FileTree) (root dir : Path) (path : String) (content : List Char) : Outline :=
  let nodes := statements (allowsElements path) content
  let locate := resolveSpecifier tree root dir
  { imports := nodes.filterMap fun node =>
      if node.kind == .importStatement || node.kind == .exportStatement then importOf? locate node
      else none
    exports := distinctExports (nodes.flatMap fun node =>
      if node.kind == .exportStatement then exportsOf node else []) }

end Strata.Language.TypeScript

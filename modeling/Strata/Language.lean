import Strata.Ecosystem
import Strata.Language.Kotlin
import Strata.Language.Python
import Strata.Language.Swift
import Strata.Language.TypeScript.Outline

/-!
# Outlines by ecosystem
-/

namespace Strata.Ecosystem

/-- The outline of a source file.  Only TypeScript looks at other files, to find what an import
means; `root` is the analysed directory of the tree, and `dir` the one that the file is in. -/
def outline (ecosystem : Ecosystem) (tree : FileTree) (root dir : Path) (path : String)
    (content : List Char) : Outline :=
  match ecosystem with
  | typescript => Language.TypeScript.outline tree root dir path content
  | python => Language.Python.outline path content
  | kotlin => Language.Kotlin.outline path content
  | swift => Language.Swift.outline path content

/-- Whether imports are resolved by the names that files declare. -/
def usesIndex (ecosystem : Ecosystem) : Bool := ecosystem != typescript

end Strata.Ecosystem

import Strata.Proofs.Graph.Resolution
import Strata.Proofs.Walk.Names

/-!
# Closed module graphs

Python, Kotlin and Swift files import by name.  Their imports are resolved through the index of the
outlined files alone, so a resolved import can only lead to one of these files; and every outlined
file becomes a module under the path by which it is shown.  This makes the graph of the modules
closed: each resolved dependency joins modules with different paths.  The paths tell the modules
apart if the names in the tree are texts; names that are not may be shown alike.
-/

namespace Strata

/-! ### Outlines import by name -/

namespace Language

end Language

namespace Analysis

/-- A file in each of two directories with names that are no texts. -/
def twinProject : FileTree :=
  .dir [(.ofBytes [0x64, 0xFE], .dir [("x.py", .file (.text ""))]),
    (.ofBytes [0x64, 0xFF], .dir [("x.py", .file (.text ""))])]

/-- The two directories are shown alike, and so are the files in them. -/
theorem buildModules_twinProject :
    let config : Config :=
      { ecosystem := some .python, layers := [{ name := "app", pattern := "**" }] }
    twinProject.wellNamed = true ∧
      (buildModules .python config [] twinProject (Path.parse ".")).toOption.map
        (·.map SourceModule.path) = some ["d\ufffd/x.py", "d\ufffd/x.py"] := by
  decide +kernel

end Analysis

end Strata

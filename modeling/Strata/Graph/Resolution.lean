import Strata.Dependency
import Strata.Graph.Index
import Strata.Language.TypeScript.Locate

/-!
# Resolution of imports

Decides for each import whether it leads to an analysed file, looks local but leads nowhere, or
leads outside, and turns it into a dependency.
-/

namespace Strata.Resolution

open Strata.Text

/-- The package that a relative import with `level` dots starts from: one dot means the importing
package, and each further dot the package above.  There is nothing above the topmost package. -/
def relativeBase (package : String) (level : Nat) : Option String :=
  let segments := (partsAt '.' package).filter fun part => part != ""
  let ascent := level - 1
  if 0 < ascent ∧ segments.length ≤ ascent then none
  else some (joinWith "." (segments.take (segments.length - ascent)))

/-- The file that an import of everything in a package leads to. -/
def wildcard? (index : Index) (package : String) : Option String :=
  (index.firstInPackage? package).or (index.symbol? package)

/-- The kind of a name that leads to no file. -/
def kindOfMissing (index : Index) (name : String) : DependencyKind :=
  if index.looksLocal name then .unresolved else .external

/-- A found file, or else the name looked for with a kind. -/
def settle (found : Option String) (name : String) (missing : DependencyKind) :
    String × DependencyKind :=
  match found with
  | some path => (path, .resolved)
  | none => (name, missing)

/-- What an import in a file of this package leads to. -/
def classify (index : Index) (package : Option String) (entry : Import) :
    String × DependencyKind :=
  match entry.target with
  | .path specifier resolved =>
    settle resolved specifier
      (if Language.TypeScript.isLocalSpecifier specifier then .unresolved else .external)
  | .name name => settle (index.lookup? name) name (kindOfMissing index name)
  | .wildcard name => settle (wildcard? index name) name (kindOfMissing index name)
  | .relative level name all =>
    match relativeBase (package.getD "") level with
    | none => (entry.statement, .unresolved)
    | some base =>
      let full := Name.join base name
      settle (if all then wildcard? index full else index.lookup? full) full .unresolved

/-- The dependencies of a file; imports of itself are left out. -/
def dependencies (index : Index) (file : OutlinedFile) : List Dependency :=
  file.2.imports.filterMap fun entry =>
    let found := classify index file.2.package entry
    if found.2 = .resolved ∧ found.1 = file.1 then none
    else some ⟨file.1, found.1, entry.line, entry.statement, found.2⟩

end Strata.Resolution

import Strata.Outline

/-!
# Dependencies and modules

A module is a source file as the checks see it: its place, its layer, the names it exports and
its imports, each of them decided to be local, missing or external.
-/

namespace Strata

/-- What became of an import. -/
inductive DependencyKind where
  /-- It leads to an analysed file. -/
  | resolved
  /-- It looks local, but no analysed file was found. -/
  | unresolved
  /-- It leads to something outside, such as a library. -/
  | external
deriving DecidableEq, Repr

/-- The name of a kind in data formats. -/
def DependencyKind.name : DependencyKind → String
  | resolved => "local-resolved"
  | unresolved => "local-unresolved"
  | external => "external"

/-- An import of a module together with what became of it. -/
structure Dependency where
  /-- The path of the importing module. -/
  source : String
  /-- The path of the imported module, or the imported name if none was found. -/
  target : String
  /-- The line of the import. -/
  line : Nat
  /-- The text of the import. -/
  statement : String
  /-- What became of it. -/
  kind : DependencyKind
deriving DecidableEq, Repr

namespace Dependency

/-- Whether it leads to an analysed file. -/
def isResolved (dependency : Dependency) : Bool := dependency.kind == .resolved

/-- Whether it looks local and leads nowhere. -/
def isUnresolved (dependency : Dependency) : Bool := dependency.kind == .unresolved

/-- Whether it leads outside. -/
def isExternal (dependency : Dependency) : Bool := dependency.kind == .external

end Dependency

/-- A source file as the checks see it. -/
structure SourceModule where
  /-- Its path below the analysed root. -/
  path : String
  /-- The layer it belongs to. -/
  layer : Option String := none
  /-- Its imports in source order. -/
  dependencies : List Dependency := []
  /-- The names it exports. -/
  exports : List Export := []
  /-- The suspicious lines in it. -/
  signals : List Signal := []
deriving DecidableEq, Repr

end Strata

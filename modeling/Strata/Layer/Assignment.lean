import Strata.Layer.Glob

/-!
# Layers and the files in them

A layer is a named set of files, given by a glob, together with the layers it may depend on.
A file belongs to at most one layer: of those whose glob it fits, the one with the greatest rank,
and of equally ranked ones the first declared.  The rank is the layer's precedence, and between
equal precedences the number of characters in the glob that are no wildcards.
-/

namespace Strata

/-- A layer as it is declared. -/
structure Layer where
  /-- The name of the layer. -/
  name : String
  /-- The glob that its files fit. -/
  pattern : String
  /-- The names of the layers that it may depend on. -/
  allow : List String := []
  /-- Its precedence over other layers, if declared. -/
  precedence : Option Int := none
deriving DecidableEq, Repr, Inhabited

namespace Layer

/-- Whether the layer may depend on another one. -/
def allows (layer : Layer) (other : String) : Bool :=
  layer.allow.contains other

/-- The precedence that counts: zero unless declared. -/
def effectivePrecedence (layer : Layer) : Int :=
  layer.precedence.getD 0

/-- The first layer of this name. -/
def find? (layers : List Layer) (name : String) : Option Layer :=
  layers.find? fun layer => layer.name == name

/-- Whether a path fits the glob of a layer. -/
def claims (path : String) (layer : Layer) : Bool :=
  Glob.accepts layer.pattern path

/-- Whether a layer ranks above another one. -/
def outranks (a b : Layer) : Bool :=
  b.effectivePrecedence < a.effectivePrecedence ||
    (a.effectivePrecedence == b.effectivePrecedence &&
      Glob.specificity b.pattern < Glob.specificity a.pattern)

/-- The better of the best layer so far and a further one, which has to rank above it. -/
def better : Option Layer → Layer → Option Layer
  | none, layer => some layer
  | some best, layer => if layer.outranks best then some layer else some best

/-- The first layer of greatest rank. -/
def best? (layers : List Layer) : Option Layer :=
  layers.foldl better none

/-- The name of the layer that a path belongs to. -/
def assign (layers : List Layer) (path : String) : Option String :=
  (best? (layers.filter (claims path))).map name

end Layer

end Strata

import Strata.Ascending
import Strata.Check
import Strata.Ecosystem
import Strata.FileTree
import Strata.Layer.Assignment

/-!
# Configurations

What to analyse, which layers there are and which checks run, and the conditions under which a
configuration is accepted.
-/

namespace Strata

open Strata.Text

/-- A configuration. -/
structure Config where
  /-- The directory to analyse. -/
  root : String := "."
  /-- The ecosystem of the sources. -/
  ecosystem : Option Ecosystem := none
  /-- Globs for files that are left out. -/
  exclude : List String := []
  /-- The layers in the order of their declaration. -/
  layers : List Layer := []
  /-- The checks that are switched on or off, in ascending order of their names. -/
  checks : List (String × Bool) := []
deriving Repr

/-- What is wrong with a configuration. -/
inductive ConfigProblem where
  /-- The ecosystem is missing. -/
  | noEcosystem
  /-- There is no layer. -/
  | noLayers
  /-- The layer at this place has no name. -/
  | emptyName (place : Nat)
  /-- The layer at this place has a name with other characters than allowed. -/
  | invalidName (place : Nat) (name : String)
  /-- The layer's glob is blank. -/
  | emptyPattern (layer : String)
  /-- Two layers have this name. -/
  | declaredTwice (layer : String)
  /-- The layer allows one that is not declared. -/
  | unknownLayer (layer allowed : String)
  /-- There is no check of this name. -/
  | unknownCheck (check : String)
deriving DecidableEq, Repr

/-- What is said about a problem. -/
def ConfigProblem.describe : ConfigProblem → String
  | noEcosystem => "analyzer.ecosystem is required"
  | noLayers => "at least one [[layers]] entry is required"
  | emptyName place => "layers[" ++ toString place ++ "]: empty name"
  | invalidName place name =>
    "layers[" ++ toString place ++ "]: invalid name '" ++ name ++ "' (use [a-z0-9_-])"
  | emptyPattern layer => "layer '" ++ layer ++ "': empty pattern"
  | declaredTwice layer => "layer '" ++ layer ++ "' is declared twice"
  | unknownLayer layer allowed =>
    "layer '" ++ layer ++ "': unknown layer '" ++ allowed ++ "' in allow-list"
  | unknownCheck check =>
    "checks." ++ check ++ ": unknown check (expected one of " ++
      joinWith ", " (Check.all.map Check.name) ++ ")"

/-- The report on a problem. -/
def ConfigProblem.message (problem : ConfigProblem) : String :=
  "Invalid config: " ++ problem.describe

namespace Config

/-- Whether a check runs: a check that is not mentioned does. -/
def isOn (config : Config) (check : String) : Bool :=
  (config.checks.lookup check).getD true

/-- The order of switches by the names of their checks. -/
def switchBefore (a b : String × Bool) : Bool := a.1 < b.1

/-- Switches a check on or off. -/
def switch (config : Config) (check : String) (on : Bool) : Config :=
  { config with
    checks := Ascending.insert switchBefore (check, on)
      (config.checks.filter fun entry => entry.1 != check) }

/-- The first layer of this name. -/
def layer? (config : Config) (name : String) : Option Layer :=
  Layer.find? config.layers name

/-- Whether a character may stand in the name of a layer. -/
def inLayerName (c : Char) : Bool :=
  c.isLower || c.isDigit || c == '-' || c == '_'

/-- What is wrong with the layer at this place, given the names of the layers before it. -/
def layerProblem? (place : Nat) (names : List String) (layer : Layer) : Option ConfigProblem :=
  if layer.name = "" then some (.emptyName place)
  else if !layer.name.toList.all inLayerName then some (.invalidName place layer.name)
  else if trimmed layer.pattern = "" then some (.emptyPattern layer.name)
  else if names.contains layer.name then some (.declaredTwice layer.name)
  else none

/-- The first thing that is wrong with the layers from this place on. -/
def layersProblem? : (place : Nat) → (names : List String) → List Layer → Option ConfigProblem
  | _, _, [] => none
  | place, names, layer :: rest =>
    match layerProblem? place names layer with
    | some problem => some problem
    | none => layersProblem? (place + 1) (layer.name :: names) rest

/-- The first entry of an allow-list that is no layer. -/
def allowProblem? (names : List String) (layer : Layer) : Option ConfigProblem :=
  (layer.allow.find? fun other => !names.contains other).map (.unknownLayer layer.name)

/-- The first switch for a check that does not exist. -/
def checkProblem? (config : Config) : Option ConfigProblem :=
  ((config.checks.map Prod.fst).find? fun name => (Check.ofName? name).isNone).map .unknownCheck

/-- The first thing that is wrong with a configuration. -/
def problem? (config : Config) : Option ConfigProblem :=
  if config.ecosystem.isNone then some .noEcosystem
  else if config.layers.isEmpty then some .noLayers
  else
    (layersProblem? 0 [] config.layers).or <|
      (config.layers.findSome? (allowProblem? (config.layers.map Layer.name))).or <|
        config.checkProblem?

end Config

end Strata

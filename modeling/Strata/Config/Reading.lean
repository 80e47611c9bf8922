import Strata.Config
import Strata.Toml.Document

/-!
# Reading configurations

A configuration is written in TOML.  Keys that mean nothing are passed over; a value of the wrong
kind makes the text no configuration.  A record may also be written as a list of its fields in
order.
-/

namespace Strata.Config

open Strata.Toml

/-- Why no configuration could be read. -/
inductive ReadError where
  /-- The file at this path cannot be read. -/
  | unreadable (path : String) (cause : LookupError)
  /-- The text is no configuration. -/
  | malformed
deriving DecidableEq, Repr

/-- The fields of a record. -/
def fields? (names : List String) : Value → Option Entries
  | .table _ entries => some entries
  | .array items => some (names.zip items)
  | .tables items => some (names.zip items)
  | .datetime => some []
  | _ => none

/-- The value of a field read by `read`, or a default if it is missing. -/
def field {α : Type} (entries : Entries) (name : String) (default : α)
    (read : Value → Option α) : Option α :=
  match entries.get? name with
  | some value => read value
  | none => some default

/-- A text. -/
def text? : Value → Option String
  | .string text => some text
  | _ => none

/-- A truth value. -/
def boolean? : Value → Option Bool
  | .boolean b => some b
  | _ => none

/-- The items of a list. -/
def items? : Value → Option (List Value)
  | .array items => some items
  | .tables items => some items
  | _ => none

/-- A list of texts. -/
def texts? (value : Value) : Option (List String) :=
  (items? value).bind fun items => items.mapM text?

/-- A whole number of thirty-two bits with sign. -/
def precedence? : Value → Option (Option Int)
  | .integer n => if -2147483648 ≤ n ∧ n ≤ 2147483647 then some (some n) else none
  | _ => none

/-- Whether a value is an empty table or list. -/
def isVoid : Value → Bool
  | .array items => items.isEmpty
  | .tables items => items.isEmpty
  | .table _ entries => entries.isEmpty
  | _ => false

/-- An ecosystem: its name, or a table that has the name as key of an empty value. -/
def ecosystem? : Value → Option (Option Ecosystem)
  | .string text => (Ecosystem.ofName? text).map some
  | .table form entries =>
    match entries with
    | [] => none
    | (name, value) :: others =>
      if (form.isInline && !others.isEmpty) || !isVoid value then none
      else (Ecosystem.ofName? name).map some
  | _ => none

/-- A layer.  Its allow-list has two spellings, of which one may be used. -/
def layerOf? (value : Value) : Option Layer := do
  let entries ← fields? ["name", "pattern", "allow", "precedence"] value
  let name ← (entries.get? "name").bind text?
  let pattern ← (entries.get? "pattern").bind text?
  if (entries.get? "allow").isSome && (entries.get? "allowed").isSome then none
  else
    let allow ← field entries "allow" [] texts?
    let allowed ← field entries "allowed" allow texts?
    let precedence ← field entries "precedence" none precedence?
    return ⟨name, pattern, allowed, precedence⟩

/-- The switches of checks. -/
def switches? : Value → Option (List (String × Bool))
  | .table _ entries => entries.mapM fun (name, value) => (boolean? value).map fun b => (name, b)
  | _ => none

/-- The part of a configuration that says what to analyse. -/
def analyzer? (value : Value) : Option Config := do
  let entries ← fields? ["root", "ecosystem", "exclude"] value
  let root ← field entries "root" "." text?
  let ecosystem ← field entries "ecosystem" none ecosystem?
  let exclude ← field entries "exclude" [] texts?
  return { root, ecosystem, exclude }

/-- The configuration that a document holds. -/
def ofEntries? (entries : Entries) : Option Config := do
  let config ← field entries "analyzer" {} analyzer?
  let layers ← field entries "layers" [] fun value => (items? value).bind (·.mapM layerOf?)
  let switches ← field entries "checks" [] switches?
  return switches.foldl (fun config s => config.switch s.1 s.2) { config with layers }

/-- Reads a configuration. -/
def parse (text : String) : Except ReadError Config :=
  match (Toml.read? text).bind ofEntries? with
  | some config => .ok config
  | none => .error .malformed

/-- Reads a configuration from a file. -/
def load (tree : FileTree) (path : String) : Except ReadError Config :=
  match tree.readText (Path.steps path) with
  | .ok text => parse text
  | .error cause => .error (.unreadable path cause)

/-- What is said when a configuration cannot be read. -/
def ReadError.message : ReadError → String
  | unreadable path cause => "Failed to read config file " ++ path ++ ": " ++ cause.message
  | malformed => "Failed to parse config:"

end Strata.Config

import Strata.Text.Lines

/-!
# Roles of layers

What a layer is for is guessed from the words in its name.  The roles are tried in a fixed order,
and the first one with a word in the name is taken.
-/

namespace Strata

open Strata.Text

/-- The part that a layer plays in an application. -/
inductive Role where
  /-- Views and other user interface. -/
  | presentation
  /-- View models and other holders of the state that views show. -/
  | stateHolder
  /-- Business rules. -/
  | domain
  /-- Storage and network access. -/
  | data
  /-- Anything else. -/
  | other
deriving DecidableEq, Repr

namespace Role

/-- The name of a role in data formats. -/
def name : Role → String
  | presentation => "presentation"
  | stateHolder => "state-holder"
  | domain => "domain"
  | data => "data"
  | other => "other"

/-- The words that give a role away. -/
def vocabulary : Role → List String
  | stateHolder => ["viewmodel", "presenter", "store", "state", "bloc"]
  | presentation => ["presentation", "ui", "view", "screen", "component", "page", "widget"]
  | domain => ["domain", "business", "usecase", "entity", "entities", "core"]
  | data =>
    ["data", "repository", "repositories", "infra", "infrastructure", "persistence", "api",
      "network", "networking", "db", "database", "remote"]
  | other => []

/-- The roles that have a vocabulary, in the order in which they are tried. -/
def tried : List Role := [stateHolder, presentation, domain, data]

/-- The words of a layer name: its stretches of ASCII letters and digits, in small letters. -/
def words (layer : String) : List String :=
  (partsBy (fun c => !c.isAlphanum) (asciiLower layer)).filter fun word => word != ""

/-- Whether a word, or what is left without a final `s`, belongs to a vocabulary. -/
def knows (vocabulary : List String) (word : String) : Bool :=
  vocabulary.any fun known => word == known || beforeEnd? "s" word == some known

/-- Whether a name gives a role away: by one of its words, or by all of them written together. -/
def isIn (words : List String) (role : Role) : Bool :=
  words.any (knows role.vocabulary) ||
    (1 < words.length && knows role.vocabulary (String.join words))

/-- The role of a layer, by its name. -/
def ofLayer (layer : String) : Role :=
  (tried.find? (isIn (words layer))).getD other

end Role

end Strata

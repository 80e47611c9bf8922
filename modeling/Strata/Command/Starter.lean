import Strata.Config
import Strata.Report

/-!
# Starter configurations

The configuration file that a new project begins with, one for each ecosystem.
-/

namespace Strata.Command

open Strata.Text

/-- The layers that a new project begins with. -/
def starterLayers : Ecosystem → List Layer
  | .typescript =>
    [{ name := "views", pattern := "**/views/**", allow := ["hooks", "domain"] },
      { name := "hooks", pattern := "**/hooks/**", allow := ["domain", "data"] },
      { name := "domain", pattern := "**/domain/**" },
      { name := "data", pattern := "**/data/**", allow := ["domain"] }]
  | .python =>
    [{ name := "views", pattern := "**/views/**", allow := ["services", "domain"] },
      { name := "services", pattern := "**/services/**", allow := ["domain", "repositories"] },
      { name := "domain", pattern := "**/domain/**" },
      { name := "repositories", pattern := "**/repositories/**", allow := ["domain"] }]
  | .kotlin =>
    [{ name := "ui", pattern := "**/ui/**", allow := ["viewmodel", "domain"] },
      { name := "viewmodel", pattern := "**/viewmodel/**", allow := ["domain"] },
      { name := "domain", pattern := "**/domain/**" },
      { name := "data", pattern := "**/data/**", allow := ["domain"] }]
  | .swift =>
    [{ name := "views", pattern := "**/Views/**", allow := ["viewmodels", "models"] },
      { name := "viewmodels", pattern := "**/ViewModels/**", allow := ["models", "services"] },
      { name := "models", pattern := "**/Models/**" },
      { name := "services", pattern := "**/Services/**", allow := ["models"] }]

/-- The globs of files that a new project leaves out. -/
def starterExclude : Ecosystem → List String
  | .typescript => ["**/generated/**", "**/*.stories.tsx"]
  | .python => ["**/migrations/**"]
  | .kotlin => ["**/generated/**"]
  | .swift => ["**/Generated/**"]

/-- A text in double quotes. -/
def quoted (text : String) : String := "\"" ++ text ++ "\""

/-- A list of texts in brackets. -/
def bracketed (texts : List String) : String :=
  "[" ++ joinWith ", " (texts.map quoted) ++ "]"

/-- The lines that declare a layer. -/
def layerLines (layer : Layer) : List String :=
  ["", "[[layers]]", "name = " ++ quoted layer.name, "pattern = " ++ quoted layer.pattern,
    "allow = " ++ bracketed layer.allow]

/-- The text of the configuration file that a new project begins with. -/
def starterText (ecosystem : Ecosystem) : String :=
  Report.printed
    (["# layer-lint configuration", "", "[analyzer]", "root = " ++ quoted ".",
        "ecosystem = " ++ quoted ecosystem.name,
        "exclude = " ++ bracketed (starterExclude ecosystem), "",
        "# Layers are matched against root-relative paths. A module belongs to the",
        "# matching layer with the highest precedence, then the most specific",
        "# pattern, then the one declared first. A layer may always import itself."] ++
      (starterLayers ecosystem).flatMap layerLines ++
      ["", "# Checks are all enabled by default; set one to false to skip it.", "[checks]"] ++
      Check.all.map fun check => check.name ++ " = true")

end Strata.Command

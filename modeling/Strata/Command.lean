import Strata.Analysis
import Strata.Command.Arguments
import Strata.Command.Starter
import Strata.Command.World

/-!
# Running commands

What each command prints, writes and returns, as a function of the command line and of the
surroundings.
-/

namespace Strata.Command

open Strata.Text

/-- Why a command fails: what went wrong, and the causes of it, outermost first. -/
structure Failure where
  /-- What went wrong. -/
  what : String
  /-- Why. -/
  causes : List String := []
deriving DecidableEq, Repr

namespace Failure

/-- A text with more lines indented after the first one. -/
def indented (indent text : String) : String :=
  joinWith ("\n" ++ indent) (partsAt '\n' text)

/-- The causes, numbered if there are several. -/
def causeLines : List String → List String
  | [cause] => ["    " ++ indented "    " cause]
  | causes =>
    (numberFrom 0 causes).map fun (n, cause) =>
      "    " ++ toString n ++ ": " ++ indented "       " cause

/-- The report on a failure. -/
def report (failure : Failure) : String :=
  if failure.causes.isEmpty then failure.what
  else joinWith "\n" (failure.what :: "" :: "Caused by:" :: causeLines failure.causes)

/-- The failure to read a configuration file. -/
def ofRead (path : String) (error : Config.ReadError) : Failure where
  what := "Failed to load " ++ path
  causes :=
    match error with
    | .unreadable _ cause => [error.message, cause.message]
    | .malformed => [error.message]

/-- The failure to make an analysis. -/
def ofAnalysis (error : AnalysisError) : Failure :=
  match error with
  | .badExclude cause => ⟨"Analysis failed", [error.message, cause.message]⟩
  | _ => ⟨"Failed to set up analysis", [error.message]⟩

end Failure

/-- How a run ends. -/
structure Outcome where
  /-- The exit code. -/
  exit : Nat
  /-- What is printed. -/
  output : String := ""
  /-- The failure that is reported. -/
  failure : Option Failure := none
  /-- The file that is written, and its text. -/
  written : Option (String × String) := none

namespace Outcome

/-- A run that fails. -/
def failed (failure : Failure) : Outcome := { exit := 1, failure := some failure }

/-- A command line that is not understood. -/
def misused : Outcome := { exit := 2 }

end Outcome

/-- The name and version of the program. -/
def versionText : String := Report.printed ["layer-lint 0.1.0"]

/-- The explanation of the command line. -/
def helpText : String :=
  Report.printed
    ["Architecture layer linter for TypeScript, Python, Kotlin and Swift",
      "",
      "Usage: layer-lint [OPTIONS] <COMMAND>",
      "",
      "Commands:",
      "  check       Run layer checks",
      "  list-rules  List available rules",
      "  init        Initialize configuration file",
      "  help        Print this message or the help of the given subcommand(s)",
      "",
      "Options:",
      "  -v, --verbose          Enable verbose output",
      "  -c, --config <CONFIG>  Path to configuration file",
      "  -h, --help             Print help",
      "  -V, --version          Print version"]

/-- The directory to analyse: the configured one, seen from the checked path. -/
def analysisRoot (path configured : String) : String :=
  if configured = "" ∨ Path.parse configured = [.here] then path
  else Path.joinText path configured

/-- The configuration for a check, with what the command line adds to it. -/
def checkConfig (world : World) (path : String) (given : Option String)
    (ecosystem : Option Ecosystem) (exclude : List String) : Except Failure Config :=
  match configFor? world given path with
  | none => .error ⟨"No layer-lint.toml found. Run `layer-lint init` to create one.", []⟩
  | some file =>
    match loadConfig world file with
    | .error error => .error (.ofRead file error)
    | .ok config =>
      .ok
        { config with
          ecosystem := ecosystem.or config.ecosystem
          exclude := config.exclude ++ exclude }

/-- Checks the sources below a path.  Errors among the violations make the run fail. -/
def check (world : World) (path : String) (given : Option String) (format : Report.Format)
    (ecosystem : Option Ecosystem) (exclude : List String) : Outcome :=
  match checkConfig world path given ecosystem exclude with
  | .error failure => .failed failure
  | .ok config =>
    let (around, tree, root) := world.site (analysisRoot path config.root)
    match Analysis.run config around tree root with
    | .error error => .failed (.ofAnalysis error)
    | .ok analysis =>
      { exit := if analysis.summary.hasErrors then 1 else 0
        output := Report.render analysis.summary format }

/-- The file that a new project's configuration is written to. -/
def starterFile : String := "layer-lint.toml"

/-- Writes a first configuration file, if none is there or it is to be replaced. -/
def init (world : World) (force : Bool) (ecosystem : Ecosystem) : Outcome :=
  match world.tree.child? starterFile, force with
  | some _, false =>
    .failed
      ⟨"Configuration file already exists at " ++ starterFile ++ ". Use --force to overwrite.", []⟩
  | some (.dir _), true => .failed ⟨LookupError.isDirectory.message, []⟩
  | _, _ =>
    { exit := 0
      output :=
        Report.printed
          ["Created " ++ starterFile ++ " for " ++ ecosystem.name, "", "Next steps:",
            "  1. Edit [[layers]] patterns and allow-lists for your project",
            "  2. Run: layer-lint check"]
      written := some (starterFile, starterText ecosystem) }

/-- Does what is asked for. -/
def perform (world : World) : Request → Outcome
  | .check path config format ecosystem exclude => check world path config format ecosystem exclude
  | .listRules => { exit := 0, output := Report.checkTable }
  | .init force ecosystem => init world force ecosystem
  | .version => { exit := 0, output := versionText }
  | .help => { exit := 0, output := helpText }

/-- Runs a command line. -/
def run (world : World) (words : List String) : Outcome :=
  match parse? words with
  | none => .misused
  | some request => perform world request

end Strata.Command

import Strata.Check
import Strata.Report.Json

/-!
# Reports

What is printed about a run: for people, as JSON, or with one line for each violation; and the
table of checks.
-/

namespace Strata.Report

open Strata.Text

/-- A form of report. -/
inductive Format where
  /-- For people, with colours. -/
  | text
  /-- As JSON. -/
  | json
  /-- One line for each violation. -/
  | compact
deriving DecidableEq, Repr

namespace Format

/-- All forms. -/
def all : List Format := [text, json, compact]

/-- The name of a form. -/
def name : Format → String
  | text => "text"
  | json => "json"
  | compact => "compact"

/-- The form of this name. -/
def ofName? (word : String) : Option Format :=
  all.find? fun format => format.name == word

end Format

/-- Lines as they are printed. -/
def printed (lines : List String) : String :=
  String.join (lines.map fun line => line ++ "\n")

/-- A colour of the terminal. -/
inductive Colour where
  /-- For errors. -/
  | red
  /-- For warnings. -/
  | yellow
  /-- For what is worth knowing. -/
  | blue
  /-- For a run without complaint. -/
  | green
deriving DecidableEq, Repr

/-- The text that switches a colour on. -/
def Colour.on : Colour → String
  | red => "\x1b[31m"
  | yellow => "\x1b[33m"
  | blue => "\x1b[34m"
  | green => "\x1b[32m"

/-- A text in a colour. -/
def Colour.paint (colour : Colour) (text : String) : String :=
  colour.on ++ text ++ "\x1b[0m"

/-- The colour of a severity. -/
def colourOf : Severity → Colour
  | .error => .red
  | .warning => .yellow
  | .info => .blue

/-- A violation for people. -/
def violationLines (v : Violation) : List String :=
  [v.code ++ " " ++ v.rule ++ " at " ++ v.file ++ ":" ++ toString v.line,
    "  " ++ (colourOf v.severity).paint v.severity.name ++ ": " ++ v.message,
    "  = help: " ++ v.suggestion,
    ""]

/-- The colour of the last line: that of the worst violations. -/
def summaryColour (s : Summary) : Colour :=
  if 0 < s.count .error then .red else if 0 < s.count .warning then .yellow else .green

/-- The last line for people. -/
def summaryLine (s : Summary) : String :=
  (summaryColour s).paint
    ("Found " ++ toString (s.count .error) ++ " error(s), " ++ toString (s.count .warning) ++
      " warning(s), " ++ toString (s.count .info) ++ " info(s) in " ++ toString s.modules ++
      " module(s) with " ++ toString s.dependencies ++ " dependency edge(s)")

/-- A violation as JSON. -/
def violationJson (v : Violation) : Json :=
  .record
    [("code", .text v.code), ("rule", .text v.rule), ("severity", .text v.severity.name),
      ("location",
        .record
          [("file", .text v.file), ("line", .number v.line),
            ("column", .number Violation.column)]),
      ("message", .text v.message), ("suggestion", .record [("message", .text v.suggestion)])]

/-- A summary as JSON. -/
def summaryJson (s : Summary) : Json :=
  .record
    [("violations", .list (s.violations.map violationJson)),
      ("modules_analyzed", .number s.modules),
      ("dependencies_analyzed", .number s.dependencies)]

/-- The report on a run. -/
def render (s : Summary) : Format → String
  | .text => printed (s.violations.flatMap violationLines ++ [summaryLine s])
  | .json => printed [Json.render 0 (summaryJson s)]
  | .compact => printed (s.violations.map Violation.display)

/-- A text with blanks after it up to a width. -/
def column (width : Nat) (text : String) : String :=
  text ++ String.ofList (List.replicate (width - text.length) ' ')

/-- A line of the table of checks. -/
def tableLine (code name severity description : String) : String :=
  column 8 code ++ " " ++ column 28 name ++ " " ++ column 9 severity ++ " " ++ description

/-- The table of checks. -/
def checkTable : String :=
  printed
    (["Available rules:", "", tableLine "Code" "Name" "Severity" "Description",
        String.ofList (List.replicate 90 '-')] ++
      Check.all.map (fun check =>
        tableLine check.code check.name check.severity.name check.description) ++
      ["", "The anti-pattern rule reports as <ecosystem>-architecture-anti-pattern.",
        "Disable a check in layer-lint.toml, e.g.:", "  [checks]", "  unresolved-import = false"])

end Strata.Report

/-!
# Violations

What the checks report, and how many of each severity.
-/

namespace Strata

/-- How serious a violation is. -/
inductive Severity where
  /-- Worth knowing. -/
  | info
  /-- Probably wrong. -/
  | warning
  /-- Forbidden; the run fails. -/
  | error
deriving DecidableEq, Repr

namespace Severity

/-- All severities. -/
def all : List Severity := [info, warning, error]

/-- The name of a severity. -/
def name : Severity → String
  | info => "info"
  | warning => "warning"
  | error => "error"

/-- The severity of this name. -/
def ofName? (text : String) : Option Severity :=
  all.find? fun severity => severity.name == text

end Severity

/-- Something reported about a place in a file. -/
structure Violation where
  /-- The code of the check that reports it. -/
  code : String
  /-- The name under which it is reported. -/
  rule : String
  /-- How serious it is. -/
  severity : Severity
  /-- The file, below the analysed root. -/
  file : String
  /-- The line, counted from one. -/
  line : Nat
  /-- What is wrong. -/
  message : String
  /-- What to do about it. -/
  suggestion : String
deriving DecidableEq, Repr

namespace Violation

/-- The column of every violation: it concerns the line as a whole. -/
def column : Nat := 1

/-- A violation in one line. -/
def display (v : Violation) : String :=
  v.file ++ ":" ++ toString v.line ++ ":" ++ toString column ++ ": " ++ v.severity.name ++
    " [" ++ v.rule ++ "] " ++ v.message

end Violation

/-- What a run reports. -/
structure Summary where
  /-- The violations, check by check. -/
  violations : List Violation
  /-- How many modules were analysed. -/
  modules : Nat
  /-- How many dependencies they have. -/
  dependencies : Nat
deriving DecidableEq, Repr

namespace Summary

/-- How many violations have this severity. -/
def count (summary : Summary) (severity : Severity) : Nat :=
  (summary.violations.filter fun v => v.severity == severity).length

/-- Whether there is an error among the violations. -/
def hasErrors (summary : Summary) : Bool :=
  summary.violations.any fun v => v.severity == .error

/-- How many violations are reported under this name. -/
def countOfRule (summary : Summary) (rule : String) : Nat :=
  (summary.violations.filter fun v => v.rule == rule).length

end Summary

end Strata

namespace BeltGantry

/-!
# Severities

How important a line of the log is, and from which severity on the log shows
its lines.
-/

inductive Severity where
  | trace
  | debug
  | info
  | warn
  | error
  deriving DecidableEq, Repr

namespace Severity

def rank : Severity → Nat
  | trace => 0
  | debug => 1
  | info => 2
  | warn => 3
  | error => 4

/-- Name of the severity in a machine file. -/
def name : Severity → String
  | trace => "trace"
  | debug => "debug"
  | info => "info"
  | warn => "warn"
  | error => "error"

/-- Name of the severity in front of a log line. -/
def label : Severity → String
  | trace => "TRACE"
  | debug => "DEBUG"
  | info => "INFO"
  | warn => "WARN"
  | error => "ERROR"

/-- The severity with a given name, in exactly that spelling. -/
def ofName? (text : String) : Option Severity :=
  [trace, debug, info, warn, error].find? (·.name == text)

theorem ofName?_name (severity : Severity) : ofName? severity.name = some severity := by
  cases severity <;> decide

/-- Whether a log that starts at `threshold` shows a line of this severity. -/
def isShownFrom (severity threshold : Severity) : Bool := threshold.rank ≤ severity.rank

end Severity

end BeltGantry

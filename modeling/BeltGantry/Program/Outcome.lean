import BeltGantry.Machine.FromToml
import BeltGantry.Program.Run
import BeltGantry.Program.Target
import BeltGantry.Text.Control
import BeltGantry.Text.Datum
import BeltGantry.Text.Sequence
namespace BeltGantry

/-!
# What an invocation produces

From the arguments of an invocation and the content of its machine file follow
the log, the report, the complaint on standard error and the exit code.  The
targets are read before the file.  The log shows notices from the severity that
the machine file sets, or from `debug` when the invocation is verbose.
-/

/-- The arguments of an invocation. -/
structure Invocation where
  config : String
  home : Bool := false
  verbose : Bool := false
  json : Bool := false
  targets : List String := []

/-- What goes to standard error. -/
inductive Complaint where
  | target (text : String) (fault : TargetFault)
  | config (path : String) (fault : ConfigFault Float)
  | fatal (fault : Fault Float)

/-- The complaint without the words around a fault of a target and without the
particulars of a file that cannot be read. -/
def Complaint.summary : Complaint → String
  | target _ fault => Text.unstyled fault.message
  | config path fault => "corexy_abc: " ++ path ++ ": " ++ fault.heading
  | fatal fault => "corexy_abc: " ++ fault.message

/-- The complaint as it is printed.  A text of the invocation and the call for
help stand in styles of their own, so a sequence that is left open in or before
one of them ends there. -/
def Complaint.message : Complaint → String
  | target text fault =>
    "error: invalid value '" ++ Text.unstyled text ++ "' for '--move <X,Y,Z>': " ++
      Text.unstyled (fault.message ++ "\n\nFor more information, try '") ++ "--help'."
  | config path fault => "corexy_abc: " ++ path ++ ": " ++ fault.message
  | fatal fault => "corexy_abc: " ++ fault.message

/-- Everything that an invocation produces. -/
structure Outcome where
  exitCode : Nat
  log : List (Notice Float) := []
  report : Option (Report Float) := none
  complaint : Option Complaint := none

namespace Program

/-- The first text of a list that is not a target, with its fault. -/
def firstBadTarget (texts : List String) : Option (String × TargetFault) :=
  texts.findSome? fun text =>
    match Target.read text with
    | .ok _ => none
    | .error fault => some (text, fault)

/-- The severity from which the log shows notices. -/
def threshold (invocation : Invocation) (machine : Machine Float) : Severity :=
  if invocation.verbose then .debug else machine.shared.logLevel

/-- Carry out an invocation on the content of its machine file. -/
def execute (invocation : Invocation) (file : FileContent) : Outcome :=
  match Target.readAll invocation.targets with
  | .error fault =>
    let text := ((firstBadTarget invocation.targets).map Prod.fst).getD ""
    { exitCode := 2, complaint := some (.target text fault) }
  | .ok targets =>
    match Machine.load file with
    | .error fault => { exitCode := 1, complaint := some (.config invocation.config fault) }
    | .ok machine =>
      let told := run machine invocation.config invocation.home targets
      let shown := fun (notices : List (Notice Float)) =>
        notices.filter fun notice => notice.severity.isShownFrom (threshold invocation machine)
      match told.value with
      | .ok report => { exitCode := 0, log := shown told.notices, report := some report }
      | .error fault =>
        if fault.isFatal then
          { exitCode := 101, log := shown told.notices, complaint := some (.fatal fault) }
        else { exitCode := 1, log := shown (told.notices ++ [.programFailed fault]) }

end Program

open Text

def pointDatum (point : Point Float) : Datum := .list (point.toList.map .number)

def Status.datum (status : Status Float) : Datum := .record [
  ("homed_axes", .text status.homedAxes),
  ("axis_minimum", pointDatum status.axisMinimum),
  ("axis_maximum", pointDatum status.axisMaximum)]

def TargetReport.datum (entry : TargetReport Float) : Datum := .record <| [
  ("end_pos", pointDatum entry.endPos),
  ("accepted", .flag entry.accepted),
  ("max_velocity", .number entry.maxVelocity),
  ("accel", .number entry.accel)] ++
  (entry.refusal.map fun fault => ("error", Datum.text fault.message)).toList

/-- The report as a document. -/
def Report.datum (report : Report Float) : Datum := .record [
  ("status", report.status.datum),
  ("moves", .list (report.moves.map TargetReport.datum))]

/-- The log line of a notice as it is printed. -/
def Notice.printed (notice : Notice Float) : String := Text.printed notice.line

/-- The lines that a notice takes up in the printed log. -/
def Notice.printedLines (notice : Notice Float) : List String := Text.printedLines notice.line

/-- The log line of a notice as a document. -/
def Notice.datum (notice : Notice Float) : Datum := .record [
  ("level", .text notice.severity.label),
  ("fields", .record [("message", .text notice.message)]),
  ("target", .text notice.source)]

end BeltGantry

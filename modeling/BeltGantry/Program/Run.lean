import BeltGantry.Gantry.Build
import BeltGantry.Homing.Simulated
namespace BeltGantry

/-!
# A run of the program

The program builds the gantry that a machine file describes, homes all of its
axes if asked to, and tries a list of targets.  Each target is tried from where
the last admitted move ended.  The report lists one entry for each target and
the status after all of them.
-/

/-- What became of a target. -/
structure TargetReport (α : Type) where
  endPos : Point α
  maxVelocity : α
  accel : α
  /-- Why the target was refused, nothing if it was accepted. -/
  refusal : Option (Fault α)

def TargetReport.accepted {α : Type} (entry : TargetReport α) : Bool := entry.refusal.isNone

/-- What the program prints at the end of a run. -/
structure Report (α : Type) where
  status : Status α
  moves : List (TargetReport α)

namespace Program

def version : String := "0.1.0"

variable {α : Type} [Scalar α]

/-- Home every axis of a gantry in the order of configuration: the gantry with
its position set, and that position. -/
def homeAll (gantry : Gantry α) : Told α (Except (Fault α) (Gantry α × Point α)) := do
  let (result, homing) ← gantry.home SimulatedHoming.host ⟨gantry.axisSet.indices, none, [], []⟩
  match result with
  | .error fault => return .error fault
  | .ok () =>
    let position := homing.finalPosition gantry.axisSet.triplet
    let (result, moved) ← gantry.setPosition position homing.homedAxes
    match result with
    | .error fault => return .error fault
    | .ok () =>
      Noted.note (.programHomed homing.homedAxes position)
      return .ok (moved, position)

/-- Where the targets start: at the homed position, or at the origin of a gantry
that is not homed. -/
def startingPoint (home : Bool) (gantry : Gantry α) :
    Told α (Except (Fault α) (Gantry α × Point α)) :=
  if home then homeAll gantry else pure (.ok (gantry, Triplet.const 0.0))

variable [SquareRoot α]

/-- Try a target from a position: what became of it, and the position after. -/
def tryTarget (gantry : Gantry α) (printer : PrinterSection α) (current target : Point α) :
    Told α (TargetReport α × Point α) := do
  let wanted := Move.between current target printer.maxVelocity printer.maxAccel
  let (result, move) ← gantry.checkMove wanted
  match result with
  | .ok () =>
    Noted.note (.targetAccepted target move.maxCruise)
    return (⟨target, move.maxCruise, move.accel, none⟩, target)
  | .error fault =>
    Noted.note (.targetRejected target fault)
    return (⟨target, move.maxCruise, move.accel, some fault⟩, current)

/-- Try targets in order. -/
def tryTargets (gantry : Gantry α) (printer : PrinterSection α) :
    List (Point α) → Point α → Told α (List (TargetReport α))
  | [], _ => pure []
  | target :: rest, current => do
    let (entry, next) ← tryTarget gantry printer current target
    let later ← tryTargets gantry printer rest next
    return entry :: later

/-- Run the program on a machine file that was read. -/
def run (machine : Machine α) (configName : String) (home : Bool) (targets : List (Point α)) :
    Told α (Except (Fault α) (Report α)) := do
  match machine.validate with
  | .error cause => return .error (.config (.invalid cause))
  | .ok () =>
    Noted.note (.programStarted machine.shared.serviceName version configName)
    let (built, _) ← Gantry.build (Toolhead.ofPrinter machine.printer) machine 0 none
      machine.kinematics.axes machine.kinematics.axisIndices
    match built with
    | .error fault => return .error fault
    | .ok gantry =>
      match ← startingPoint home gantry with
      | .error fault => return .error fault
      | .ok (gantry, start) =>
        let moves ← tryTargets gantry machine.printer targets start
        let status ← gantry.status 0.0
        return .ok ⟨status, moves⟩

end Program

end BeltGantry

import BeltGantry.Belt
import BeltGantry.Event
import BeltGantry.Fault
import BeltGantry.Limit
import BeltGantry.Noted
import BeltGantry.Severity
namespace BeltGantry

/-!
# Notices

What a gantry and the program around it report while they work.  A notice holds
the values it is about; its severity, its source and its wording are functions
of the notice.  Times and limits are worded with three decimal places, positions
of a whole point and homing targets in pointed notation.
-/

inductive Notice (α : Type) where
  | axisSetArranged (set : AxisSet)
  | endstopsCoupled (first second : String) (firstCount secondCount : Nat)
  | railBound (rail : String) (binding : Binding)
  | stepperUnbound (stepper : String)
  | stepperRegistered (stepper : String)
  | gantryBuilt (set : AxisSet) (queue : String) (maxZVelocity maxZAccel : α)
  | limitSet (slot : Slot) (limit : Limit α)
  | limitsReset
  | motorsOff (time : α)
  | eventFired (event : MachineEvent) (served : Nat)
  | homingStarted (rail : String) (axis : Nat) (force home : Option α)
  | railHomed (rail : String) (axis : Nat)
  | endstopSilent (rail : String)
  | slotRejected (slot : Slot) (reason : Rejection)
  | statusRead (time : α) (homedAxes : String)
  | programStarted (service version config : String)
  | programHomed (axes : List Nat) (position : Point α)
  | targetAccepted (target : Point α) (speed : α)
  | targetRejected (target : Point α) (fault : Fault α)
  | programFailed (fault : Fault α)

namespace Notice

def severity {α : Type} : Notice α → Severity
  | axisSetArranged .. => .info
  | endstopsCoupled .. => .debug
  | railBound .. => .debug
  | stepperUnbound .. => .debug
  | stepperRegistered .. => .debug
  | gantryBuilt .. => .info
  | limitSet .. => .debug
  | limitsReset => .debug
  | motorsOff .. => .info
  | eventFired .. => .debug
  | homingStarted .. => .debug
  | railHomed .. => .info
  | endstopSilent .. => .warn
  | slotRejected .. => .debug
  | statusRead .. => .debug
  | programStarted .. => .info
  | programHomed .. => .info
  | targetAccepted .. => .info
  | targetRejected .. => .warn
  | programFailed .. => .error

/-- Name of the part that gives the notice. -/
def source {α : Type} : Notice α → String
  | axisSetArranged .. => "corexy_abc::axis"
  | endstopsCoupled .. => "corexy_abc::rail"
  | railBound .. => "corexy_abc::rail"
  | stepperUnbound .. => "corexy_abc::rail"
  | stepperRegistered .. => "corexy_abc::sim"
  | gantryBuilt .. => "corexy_abc::kinematics"
  | limitSet .. => "corexy_abc::limits"
  | limitsReset => "corexy_abc::limits"
  | motorsOff .. => "corexy_abc::limits"
  | eventFired .. => "corexy_abc::sim"
  | homingStarted .. => "corexy_abc::homing"
  | railHomed .. => "corexy_abc::homing"
  | endstopSilent .. => "corexy_abc::sim"
  | slotRejected .. => "corexy_abc::motion"
  | statusRead .. => "corexy_abc::kinematics"
  | programStarted .. => "corexy_abc"
  | programHomed .. => "corexy_abc"
  | targetAccepted .. => "corexy_abc"
  | targetRejected .. => "corexy_abc"
  | programFailed .. => "corexy_abc"

def pointText (point : Point Float) : String :=
  Text.listing (point.toList.map Decimal.Layout.pointed.text)

def targetText (target : Option Float) : String :=
  Text.optional (target.map Decimal.Layout.pointed.text)

def dummyText (dummies : List (Nat × Char)) : String :=
  Text.listing (dummies.map fun (index, letter) =>
    Text.pair (toString index) (Text.quotedLetter letter))

def message : Notice Float → String
  | axisSetArranged set =>
    "Axis set '" ++ set.letters ++ "': indices " ++ Text.numbers set.indices ++ ", triplet " ++
      tripletText set.triplet ++ ", dummy axes " ++ dummyText set.dummyAxes
  | endstopsCoupled first second firstCount secondCount =>
    "Coupled endstops " ++ first ++ " <-> " ++ second ++ " (" ++ toString firstCount ++ " / " ++
      toString secondCount ++ " steppers)"
  | railBound rail binding => "Rail " ++ rail ++ " bound to " ++ binding.name
  | stepperUnbound stepper =>
    "Stepper " ++ stepper ++ " has no solver binding, position unchanged"
  | stepperRegistered stepper => "Step generator registered for " ++ stepper
  | gantryBuilt set queue maxZVelocity maxZAccel =>
    "CoreXY kinematics '" ++ set.letters ++ "' on " ++ tripletText set.triplet ++ ": trapq " ++
      queue ++ ", max_z_velocity " ++ Decimal.Layout.plain.text maxZVelocity ++
      ", max_z_accel " ++ Decimal.Layout.plain.text maxZAccel
  | limitSet slot limit =>
    "Slot " ++ slot.name ++ " limit set to " ++
      Text.pair (Decimal.fixed 3 limit.low) (Decimal.fixed 3 limit.high)
  | limitsReset => "Limits reset to unhomed"
  | motorsOff time => "Motors off at " ++ Decimal.fixed 3 time ++ ", all axes marked unhomed"
  | eventFired event served =>
    "Fired " ++ event.name ++ " to " ++ toString served ++ " handler(s)"
  | homingStarted rail axis force home =>
    "Homing " ++ rail ++ " (axis " ++ toString axis ++ "): force " ++ targetText force ++
      " -> home " ++ targetText home
  | railHomed rail axis => "Homed " ++ rail ++ " (axis " ++ toString axis ++ ")"
  | endstopSilent rail => "Simulated endstop " ++ rail ++ " did not trigger"
  | slotRejected slot reason => "Slot " ++ slot.name ++ " rejected: " ++ reason.message
  | statusRead time homedAxes =>
    "Status at " ++ Decimal.fixed 3 time ++ ": homed '" ++ homedAxes ++ "'"
  | programStarted service version config =>
    service ++ " v" ++ version ++ " starting with " ++ config
  | programHomed axes position => "Homed " ++ Text.numbers axes ++ " at " ++ pointText position
  | targetAccepted target speed =>
    "Move to " ++ pointText target ++ " accepted at " ++ Decimal.fixed 3 speed ++ " mm/s"
  | targetRejected target fault =>
    "Move to " ++ pointText target ++ " rejected: " ++ fault.message
  | programFailed fault => "corexy_abc failed: " ++ fault.message

/-- The log line of a notice. -/
def line (notice : Notice Float) : String :=
  notice.severity.label ++ " " ++ notice.source ++ ": " ++ notice.message

end Notice

/-- A result with the notices of a gantry. -/
abbrev Told (α β : Type) := Noted (Notice α) β

end BeltGantry

import BeltGantry.Axis
import BeltGantry.Decimal.Places
namespace BeltGantry

/-!
# Faults

Everything that a request to a gantry may be refused for.  A fault names its
cause and carries the values at fault; `message` is the text shown to a person.
Numbers in messages are written in plain notation, positions of a refused move
with three decimal places.
-/

/-- Why the values of a configuration are refused. -/
inductive Invalid (α : Type) where
  | axes (fault : AxisFault)
  | emptyServiceName
  | notPositive (name : String) (value : α)
  | aboveMaximum (name : String) (value maximum : α)
  | axisCountBelowTriplet (count : Nat)
  | emptyRange (low high : α)
  | endstopOutside (endstop low high : α)
  | directionUnknown
  | inSection (name : String) (cause : Invalid α)
  | tooFewAxes (count : Nat) (triplet : Triplet Nat) (needed : Nat)
  | missingSection (letter : Char)
  | incompletePair (letters : String) (triplet : Triplet Nat)
  /-- A finding of the caller's own, in the caller's words. -/
  | finding (text : String)

/-- Why a configuration cannot be used. -/
inductive ConfigFault (α : Type) where
  | fileMissing
  | unreadable (detail : String)
  | invalid (cause : Invalid α)

/-- Why a move is refused: its slot is not homed, or it ends outside the limit. -/
inductive Rejection where
  | notHomed
  | outOfRange
  deriving DecidableEq, Repr

/-- A refused move with the position where it would have ended. -/
structure MoveFault (α : Type) where
  reason : Rejection
  endPos : Point α

/-- Why homing stopped. -/
inductive HomingFault where
  /-- The endstop of a rail stayed silent over the whole travel. -/
  | noTrigger (rail : String)
  /-- The axis is not one of the gantry. -/
  | unknownAxis (index : Nat)
  /-- The targets of an axis cannot be laid out over all axes of the machine. -/
  | noTargets (axis axisCount : Nat)
  deriving DecidableEq, Repr

/-- Why a request to a gantry failed. -/
inductive Fault (α : Type) where
  | config (fault : ConfigFault α)
  | moveRejected (fault : MoveFault α)
  | homing (fault : HomingFault)
  | unknownRail (name : String)

/-- Whether a fault ends a program at once, instead of being reported in its log. -/
def Fault.isFatal {α : Type} : Fault α → Bool
  | homing (.noTargets ..) => true
  | _ => false

/-- Whether an outcome is the end of a program, so that nothing comes after it. -/
def Fault.endsProgram {α β : Type} : Except (Fault α) β → Bool
  | .error fault => fault.isFatal
  | .ok _ => false

def tripletText (triplet : Triplet Nat) : String := Text.numbers triplet.toList

def invalidHeading : String := "Configuration validation failed"

def Invalid.message : Invalid Float → String
  | axes fault => fault.message
  | emptyServiceName => "service_name cannot be empty"
  | notPositive name value =>
    name ++ " " ++ Decimal.Layout.plain.text value ++ " must be above 0"
  | aboveMaximum name value maximum =>
    name ++ " " ++ Decimal.Layout.plain.text value ++ " must not exceed " ++
      Decimal.Layout.plain.text maximum
  | axisCountBelowTriplet count =>
    "axis_count " ++ toString count ++ " is below one triplet (" ++ toString tripletSize ++ ")"
  | emptyRange low high =>
    "position_min " ++ Decimal.Layout.plain.text low ++ " must be below position_max " ++
      Decimal.Layout.plain.text high
  | endstopOutside endstop low high =>
    "position_endstop " ++ Decimal.Layout.plain.text endstop ++ " must be within [" ++
      Decimal.Layout.plain.text low ++ ", " ++ Decimal.Layout.plain.text high ++ "]"
  | directionUnknown =>
    "unable to infer homing_positive_dir; the endstop is not at either end of the range"
  | inSection name cause => "[" ++ name ++ "] " ++ invalidHeading ++ ": " ++ cause.message
  | tooFewAxes count triplet needed =>
    "toolhead carries " ++ toString count ++ " axes, triplet " ++ tripletText triplet ++
      " needs " ++ toString needed
  | missingSection letter =>
    "missing rail section [" ++ railName letter.toString ++ "] for axis " ++ letter.toString
  | incompletePair letters triplet =>
    "axes '" ++ letters ++ "' leave the coupled pair of triplet " ++ tripletText triplet ++
      " incomplete"
  | finding text => text

/-- What went wrong, without the particulars. -/
def ConfigFault.heading {α : Type} : ConfigFault α → String
  | fileMissing => "Configuration file not found"
  | unreadable _ => "Failed to parse configuration"
  | invalid _ => invalidHeading

def ConfigFault.message (fault : ConfigFault Float) : String :=
  match fault with
  | fileMissing => fault.heading
  | unreadable detail => fault.heading ++ ": " ++ detail
  | invalid cause => fault.heading ++ ": " ++ cause.message

def Rejection.message : Rejection → String
  | notHomed => "Must home axis first"
  | outOfRange => "Move out of range"

def MoveFault.message (fault : MoveFault Float) : String :=
  fault.reason.message ++ ": " ++
    String.intercalate " " (fault.endPos.toList.map (Decimal.fixed 3))

def HomingFault.message : HomingFault → String
  | noTrigger rail => "No trigger on " ++ rail ++ " after full movement"
  | unknownAxis index => "Axis " ++ toString index ++ " is not homeable by this kinematics"
  | noTargets axis axisCount =>
    "Axis " ++ toString axis ++ " has no targets on a machine with " ++ toString axisCount ++
      " axes"

def Fault.message : Fault Float → String
  | config fault => fault.message
  | moveRejected fault => fault.message
  | homing fault => "Homing failed: " ++ fault.message
  | unknownRail name => "No measured position for rail '" ++ name ++ "'"

end BeltGantry

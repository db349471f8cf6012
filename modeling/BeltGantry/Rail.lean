import BeltGantry.Machine
import BeltGantry.Notice
namespace BeltGantry

/-!
# Rails, steppers and endstops

A rail carries the steppers that drive one axis and the endstop that stops
them.  Steppers are told apart by their handles, not by their names, which may
repeat.  A stepper keeps its commanded position: it changes when a coordinate is
pushed to a stepper that has a binding, and then it is what the binding makes of
that coordinate.  An endstop lists the handles that it stops, none twice.
Coupling two rails adds the steppers of each to the endstop of the other, so
that either endstop stops both belts.
-/

/-- Identity of a stepper: the rail that it was made for and its place there. -/
structure StepperHandle where
  rail : Nat
  place : Nat
  deriving DecidableEq, Repr

/-- Reference to a stepper, as endstops and toolheads hold it. -/
structure StepperRef where
  handle : StepperHandle
  name : String
  deriving DecidableEq, Repr

/-- Name of the queue through which the moves of a stepper pass. -/
abbrev MotionQueue := String

/-- A stepper motor. -/
structure Stepper (α : Type) where
  ref : StepperRef
  binding : Option Binding
  queue : Option MotionQueue
  position : α

/-- An endstop and the steppers that it stops. -/
structure Endstop where
  name : String
  stops : List StepperRef
  deriving DecidableEq, Repr

namespace Endstop

def holds (endstop : Endstop) (stepper : StepperRef) : Bool :=
  endstop.stops.any (·.handle = stepper.handle)

/-- The endstop with one more stepper, unless it holds it already. -/
def add (endstop : Endstop) (stepper : StepperRef) : Endstop :=
  if endstop.holds stepper then endstop
  else { endstop with stops := endstop.stops ++ [stepper] }

def addAll (endstop : Endstop) (steppers : List StepperRef) : Endstop :=
  steppers.foldl add endstop

end Endstop

/-- The motor rail of an axis. -/
structure Rail (α : Type) where
  name : String
  positionMin : α
  positionMax : α
  positionEndstop : α
  /-- Whether the carriage moves upwards when it meets the endstop. -/
  positiveDir : Bool
  endstop : Endstop
  steppers : List (Stepper α)
  binding : Option Binding

variable {α : Type} [Scalar α]

namespace Stepper

/-- A stepper without binding and queue, at position zero. -/
def fresh (ref : StepperRef) : Stepper α := ⟨ref, none, none, 0.0⟩

def bind (stepper : Stepper α) (binding : Binding) : Stepper α :=
  { stepper with binding := some binding }

def attach (stepper : Stepper α) (queue : MotionQueue) : Stepper α :=
  { stepper with queue := some queue }

/-- Push a machine coordinate.  A stepper without binding stays where it is. -/
def moveTo (stepper : Stepper α) (coordinate : Point α) : Stepper α :=
  match stepper.binding with
  | some binding => { stepper with position := binding.railPosition coordinate }
  | none => stepper

/-- The notice of a pushed coordinate that had no effect. -/
def moveNotices (stepper : Stepper α) : List (Notice α) :=
  match stepper.binding with
  | some _ => []
  | none => [.stepperUnbound stepper.ref.name]

end Stepper

namespace Rail

/-- The rail of an axis letter, made from its section.  `number` tells the rail
from all others.  Without names in the section, the rail has one stepper, called
like the rail. -/
def ofSection (number : Nat) (letter : Char) (given : RailSection α) :
    Except (Invalid α) (Rail α) :=
  let name := railName letter.toString
  match given.validate with
  | .error cause => .error (.inSection name cause)
  | .ok () =>
    match given.homingDirection with
    | .error cause => .error cause
    | .ok positiveDir =>
      let names := if given.steppers = [] then [name] else given.steppers
      let refs := names.zipIdx.map fun (stepper, place) => ⟨⟨number, place⟩, stepper⟩
      .ok {
        name := name
        positionMin := given.positionMin
        positionMax := given.positionMax
        positionEndstop := given.positionEndstop
        positiveDir := positiveDir
        endstop := Endstop.addAll ⟨name, []⟩ refs
        steppers := refs.map Stepper.fresh
        binding := none }

/-- References to the steppers of the rail, in order. -/
def refs (rail : Rail α) : List StepperRef := rail.steppers.map Stepper.ref

/-- The travel range as a limit. -/
def range (rail : Rail α) : Limit α := ⟨rail.positionMin, rail.positionMax⟩

/-- Commanded position of the first stepper. -/
def position (rail : Rail α) : α :=
  match rail.steppers with
  | [] => 0.0
  | first :: _ => first.position

/-- The rail with a binding, which all of its steppers take over. -/
def bind (rail : Rail α) (binding : Binding) : Rail α :=
  { rail with
    binding := some binding
    steppers := rail.steppers.map (·.bind binding) }

/-- The rail with all steppers attached to a queue. -/
def attach (rail : Rail α) (queue : MotionQueue) : Rail α :=
  { rail with steppers := rail.steppers.map (·.attach queue) }

/-- The rail after a machine coordinate was pushed to each of its steppers. -/
def moveTo (rail : Rail α) (coordinate : Point α) : Rail α :=
  { rail with steppers := rail.steppers.map (·.moveTo coordinate) }

def moveNotices (rail : Rail α) : List (Notice α) :=
  rail.steppers.flatMap Stepper.moveNotices

/-- The rail with one of its steppers changed; a place beyond the last stepper
changes nothing. -/
def modifyStepper (rail : Rail α) (place : Nat) (change : Stepper α → Stepper α) : Rail α :=
  { rail with steppers := rail.steppers.modify place change }

/-- The rail with an endstop that also stops the steppers of another rail. -/
def coupledTo (rail other : Rail α) : Rail α :=
  { rail with endstop := rail.endstop.addAll other.refs }

end Rail

/-- The notice that two rails, as they are after coupling, stop each other. -/
def couplingNotice (first second : Rail α) : Notice α :=
  .endstopsCoupled first.name second.name first.endstop.stops.length second.endstop.stops.length

end BeltGantry

import BeltGantry.Gantry
import BeltGantry.Toolhead
namespace BeltGantry

/-!
# Building a gantry

Building goes through three stages.  The letters and numbers have to form an
axis set; the rails have to be described, both slots of the coupled pair among
them; the caps of the third slot have to lie within the limits of the toolhead.
The steppers are registered with the toolhead after the second stage, so they
stay registered when the third one fails.
-/

variable {α : Type} [Scalar α]

/-- The rails of a gantry to be: coupled, bound and attached to their queue. -/
structure Assembly (α : Type) where
  rails : Triplet (Option (Rail α))
  queue : MotionQueue

namespace Assembly

/-- The toolhead has to carry all three axes of the triplet. -/
def checkAxisCount (toolhead : Toolhead α) (set : AxisSet) : Except (Invalid α) Unit :=
  let needed := tripletSize * (set.number + 1)
  if toolhead.axisCount < needed then
    .error (.tooFewAxes toolhead.axisCount set.triplet needed)
  else .ok ()

/-- The rail of a slot, if an axis is configured there.  Rails are numbered
through all gantries of a machine. -/
def railAt (machine : Machine α) (gantryNumber : Nat) (set : AxisSet) (slot : Slot) :
    Except (Invalid α) (Option (Rail α)) :=
  match set.axisAt slot with
  | none => .ok none
  | some axis =>
    match machine.rail? axis.letter with
    | none => .error (.missingSection axis.letter)
    | some given =>
      (Rail.ofSection (tripletSize * gantryNumber + slot.index) axis.letter given).map some

/-- Couple the rails of the first two slots, which both have to be there. -/
def couplePair (set : AxisSet) (rails : Triplet (Option (Rail α))) :
    Except (Invalid α) (Triplet (Option (Rail α))) :=
  match rails.x, rails.y with
  | some first, some second =>
    .ok ⟨some (first.coupledTo second), some (second.coupledTo first), rails.z⟩
  | _, _ => .error (.incompletePair set.letters set.triplet)

/-- Bind each rail as its slot demands and attach its steppers to a queue. -/
def bindRails (queue : MotionQueue) (rails : Triplet (Option (Rail α))) :
    Triplet (Option (Rail α)) :=
  Triplet.ofSlots fun slot =>
    (rails.get slot).map fun rail => (rail.bind (Binding.ofSlot slot)).attach queue

/-- The rails of an axis set.  Without a given queue, the toolhead names one
after the letters. -/
def make (toolhead : Toolhead α) (machine : Machine α) (gantryNumber : Nat)
    (queue : Option MotionQueue) (set : AxisSet) : Except (Invalid α) (Assembly α) := do
  checkAxisCount toolhead set
  let x ← railAt machine gantryNumber set .x
  let y ← railAt machine gantryNumber set .y
  let z ← railAt machine gantryNumber set .z
  let coupled ← couplePair set ⟨x, y, z⟩
  let served := queue.getD (Toolhead.queueFor set.letters)
  return ⟨bindRails served coupled, served⟩

/-- The rails in slot order. -/
def railList (assembly : Assembly α) : List (Rail α) := assembly.rails.toList.filterMap id

/-- References to the steppers of all rails, in slot order. -/
def refs (assembly : Assembly α) : List StepperRef := assembly.railList.flatMap Rail.refs

/-- The notices of coupling, binding and registering the rails. -/
def notices (assembly : Assembly α) : List (Notice α) :=
  let coupled := match assembly.rails.x, assembly.rails.y with
    | some first, some second => [couplingNotice first second]
    | _, _ => []
  let bound := assembly.railList.filterMap fun rail => rail.binding.map (.railBound rail.name)
  coupled ++ bound ++ assembly.refs.map fun ref => .stepperRegistered ref.name

end Assembly

/-- The caps of the third slot, each within the limit of the toolhead. -/
def ZCaps.ofSection (toolhead : Toolhead α) (given : KinematicsSection α) :
    Except (Invalid α) (ZCaps α) := do
  let maxVelocity ← cappedValue "max_z_velocity" given.maxZVelocity toolhead.maxVelocity
  let maxAccel ← cappedValue "max_z_accel" given.maxZAccel toolhead.maxAccel
  return ⟨maxVelocity, maxAccel⟩

/-- Arrange axes, and note the set when there is one. -/
def arrangeAxes (letters : String) (indices : List Nat) :
    Told α (Except AxisFault AxisSet) :=
  match AxisSet.arrange letters indices with
  | .error fault => pure (.error fault)
  | .ok set => ⟨.ok set, [.axisSetArranged set]⟩

namespace Gantry

/-- A new gantry, with no slot homed and its position at the origin, and the
toolhead with the steppers registered.  `number` tells the gantry from the
others of the machine. -/
def build (toolhead : Toolhead α) (machine : Machine α) (number : Nat)
    (queue : Option MotionQueue) (letters : String) (indices : List Nat) :
    Told α (Except (Fault α) (Gantry α) × Toolhead α) := do
  match ← arrangeAxes letters indices with
  | .error fault => return (.error (.config (.invalid (.axes fault))), toolhead)
  | .ok set =>
    match Assembly.make toolhead machine number queue set with
    | .error cause => return (.error (.config (.invalid cause)), toolhead)
    | .ok assembly =>
      Noted.noteAll assembly.notices
      let equipped := toolhead.register assembly.refs
      match ZCaps.ofSection toolhead machine.kinematics with
      | .error cause => return (.error (.config (.invalid cause)), equipped)
      | .ok caps =>
        Noted.note (.gantryBuilt set assembly.queue caps.maxVelocity caps.maxAccel)
        let gantry : Gantry α :=
          { axisSet := set
            rails := assembly.rails
            queue := assembly.queue
            caps := caps
            axisCount := toolhead.axisCount
            limits := Limits.unhomed
            position := Triplet.const 0.0 }
        return (.ok gantry, equipped)

end Gantry

end BeltGantry

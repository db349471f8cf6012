import BeltGantry.Homing
import BeltGantry.Limit.Update
import BeltGantry.Move.Admission
namespace BeltGantry

/-!
# Gantries

A gantry moves one triplet of axes: two slots through the crossed belts, the
third on its own or not at all.  Its state is the position commanded last, the
limits of the three slots and the steppers on its rails; axes, rails and caps
stay as they were built.

A request either succeeds or leaves the gantry as it was.  Homing and the check
of a move read the gantry and change nothing in it: what homing found out enters
through `setPosition`, which pushes a coordinate to all rails and declares the
listed axes homed over the whole range of their rails.
-/

/-- The kinematics of one triplet of axes. -/
structure Gantry (α : Type) where
  axisSet : AxisSet
  rails : Triplet (Option (Rail α))
  queue : MotionQueue
  caps : ZCaps α
  /-- Number of axes of the machine, the length of homing vectors. -/
  axisCount : Nat
  limits : Limits α
  /-- The coordinate commanded last. -/
  position : Point α

/-- What a gantry publishes about itself. -/
structure Status (α : Type) where
  /-- Letters of the homed slots, in slot order. -/
  homedAxes : String
  axisMinimum : Point α
  axisMaximum : Point α
  deriving DecidableEq, Repr

namespace Gantry

variable {α : Type} [Scalar α]

/-- The rails in slot order. -/
def railList (gantry : Gantry α) : List (Rail α) := gantry.rails.toList.filterMap id

/-- The steppers of all rails, in slot order. -/
def steppers (gantry : Gantry α) : List (Stepper α) := gantry.railList.flatMap Rail.steppers

/-- The range of a slot, which is zero to zero in a slot without rail. -/
def range (gantry : Gantry α) (slot : Slot) : Limit α :=
  match gantry.rails.get slot with
  | some rail => rail.range
  | none => ⟨0.0, 0.0⟩

/-- Letters of the slots that have an axis and are homed, in slot order. -/
def homedAxes (gantry : Gantry α) : String :=
  String.ofList <| (gantry.limits.homedSlots.filter fun slot =>
    !gantry.axisSet.isDummy slot).map Slot.letter

/-- Report the homed axes and the ranges of the rails. -/
def status (gantry : Gantry α) (time : α) : Told α (Status α) :=
  ⟨{ homedAxes := gantry.homedAxes
     axisMinimum := Triplet.ofSlots fun slot => (gantry.range slot).low
     axisMaximum := Triplet.ofSlots fun slot => (gantry.range slot).high },
    [.statusRead time gantry.homedAxes]⟩

/-- The slot of an axis of the gantry. -/
def slotOf (gantry : Gantry α) (axis : Nat) : Except (Fault α) Slot :=
  match gantry.axisSet.slotOf axis with
  | some slot => .ok slot
  | none => .error (.homing (.unknownAxis axis))

/-- The slots of a list of axes, or the first axis that is not of the gantry. -/
def slotsOf (gantry : Gantry α) : List Nat → Except (Fault α) (List Slot)
  | [] => .ok []
  | axis :: rest =>
    match gantry.slotOf axis with
    | .error fault => .error fault
    | .ok slot =>
      match gantry.slotsOf rest with
      | .error fault => .error fault
      | .ok slots => .ok (slot :: slots)

/-- Declare slots homed over the whole range of their rails. -/
def homeSlots (rails : Triplet (Option (Rail α))) :
    List Slot → Limits α → Told α (Limits α)
  | [], limits => pure limits
  | slot :: rest, limits =>
    match rails.get slot with
    | none => homeSlots rails rest limits
    | some rail => do
      let next ← limits.update slot rail.range
      homeSlots rails rest next

/-- Command a coordinate and declare the listed axes homed. -/
def setPosition (gantry : Gantry α) (position : Point α) (axes : List Nat) :
    Told α (Except (Fault α) Unit × Gantry α) :=
  match gantry.slotsOf axes with
  | .error fault => pure (.error fault, gantry)
  | .ok slots => do
    let moved := gantry.rails.map (Option.map (·.moveTo position))
    Noted.noteAll (gantry.railList.flatMap Rail.moveNotices)
    let limits ← homeSlots gantry.rails slots gantry.limits
    return (.ok (), { gantry with rails := moved, position := position, limits := limits })

/-- The measured position of a slot: that of its rail by name, or without a rail
the component commanded last. -/
def measuredAt (gantry : Gantry α) (measured : String → Option α) (slot : Slot) :
    Except (Fault α) α :=
  match gantry.rails.get slot with
  | none => .ok (gantry.position.get slot)
  | some rail =>
    match measured rail.name with
    | some value => .ok value
    | none => .error (.unknownRail rail.name)

/-- The machine coordinate at measured rail positions. -/
def calcPosition (gantry : Gantry α) (measured : String → Option α) :
    Except (Fault α) (Point α) := do
  let x ← gantry.measuredAt measured .x
  let y ← gantry.measuredAt measured .y
  let z ← gantry.measuredAt measured .z
  return forward ⟨x, y, z⟩

/-- The commanded positions of the rails by name, that of the first rail for a
name that several rails share. -/
def ownPositions (gantry : Gantry α) (name : String) : Option α :=
  (gantry.railList.find? (·.name == name)).map Rail.position

/-- The gantry with changed limits. -/
def withLimits (gantry : Gantry α) (limits : Told α (Limits α)) : Told α (Gantry α) :=
  (fun limits => { gantry with limits := limits }) <$> limits

/-- Forget the position of the third slot. -/
def forgetThird (gantry : Gantry α) : Told α (Gantry α) :=
  gantry.withLimits (gantry.limits.forget .z)

/-- Forget the position of one axis. -/
def forgetAxis (gantry : Gantry α) (axis : Nat) : Told α (Except (Fault α) Unit × Gantry α) :=
  match gantry.slotOf axis with
  | .error fault => pure (.error fault, gantry)
  | .ok slot => (Except.ok (), ·) <$> gantry.withLimits (gantry.limits.forget slot)

/-- Write a limit directly, past all checks. -/
def setLimit (gantry : Gantry α) (slot : Slot) (limit : Limit α) : Told α (Gantry α) :=
  gantry.withLimits (gantry.limits.update slot limit)

/-- Forget all positions, since the motors lost power. -/
def motorsOff (gantry : Gantry α) (time : α) : Told α (Gantry α) :=
  gantry.withLimits (Limits.motorsOff time)

/-- Home the axes that a host wants, one after the other. -/
def home {σ : Type} (gantry : Gantry α) (host : HomingHost α σ) (state : σ) :
    Told α (Except (Fault α) Unit × σ) :=
  (fun (result, after) => (result.mapError Fault.homing, after)) <$>
    Homing.homeInOrder host gantry.axisCount gantry.axisSet gantry.rails state

/-- Decide a move under the present limits, and lower its caps. -/
def checkMove (gantry : Gantry α) (move : Move α) :
    Told α (Except (Fault α) Unit × Move α) :=
  (fun (result, after) => (result.mapError Fault.moveRejected, after)) <$>
    gantry.limits.judge gantry.caps move

end Gantry

end BeltGantry

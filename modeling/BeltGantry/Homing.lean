import BeltGantry.Rail
namespace BeltGantry

/-!
# Homing

Homing an axis takes two targets: a staging point beyond the far end of the
rail, one and a half times the distance to that end away from the endstop, and
the endstop itself.  The gantry only works the targets out.  Whoever performs
the moves is a `HomingHost`: it says which axes are wanted and moves one rail at
a time, and nothing else is known about it.  Targets are laid out over all axes
of the machine, so there are none where that layout is impossible.

`homeInOrder` first checks the whole request, so that a request with a foreign
axis moves nothing; then it homes the axes one by one and stops at the first
failure.
-/

/-- Targets for homing one axis, as vectors over all axes of the machine with
nothing in the place of every other axis. -/
structure HomingMove (α : Type) where
  axis : Nat
  forcePos : List (Option α)
  homePos : List (Option α)
  deriving DecidableEq, Repr

variable {α : Type} [Scalar α]

/-- A vector of a given length that holds one value. -/
def onlyAt (length place : Nat) (value : α) : List (Option α) :=
  (List.replicate length none).set place (some value)

/-- Staging point of a rail: against the direction of homing when it starts. -/
def Rail.stagingPoint (rail : Rail α) : α :=
  if rail.positiveDir then
    rail.positionEndstop - 1.5 * (rail.positionEndstop - rail.positionMin)
  else rail.positionEndstop + 1.5 * (rail.positionMax - rail.positionEndstop)

/-- The homing targets of a rail on a machine with `axisCount` axes, for an axis
that the machine has. -/
def HomingMove.ofRail (axis : Nat) (rail : Rail α) (axisCount : Nat) : HomingMove α :=
  { axis := axis
    forcePos := onlyAt axisCount axis rail.stagingPoint
    homePos := onlyAt axisCount axis rail.positionEndstop }

/-- Number of entries from which on a vector of targets does not fit into memory. -/
def targetLimit : Nat := Nat.pow 2 59

/-- The homing targets of a rail, or nothing for an axis that the machine does
not have and for vectors that do not fit into memory. -/
def HomingMove.ofRail? (axis : Nat) (rail : Rail α) (axisCount : Nat) : Option (HomingMove α) :=
  if axis < axisCount ∧ axisCount < targetLimit then some (ofRail axis rail axisCount) else none

/-- Performer of homing moves, with a state of its own. -/
structure HomingHost (α σ : Type) where
  /-- The axes to home, in order. -/
  wanted : σ → List Nat
  /-- Perform the homing moves of some rails, or fail. -/
  homeRails : σ → List (Rail α) → HomingMove α → Told α (Except HomingFault Unit × σ)

namespace Homing

/-- The rail of an axis. -/
def railOf? (set : AxisSet) (rails : Triplet (Option (Rail α))) (axis : Nat) : Option (Rail α) :=
  (set.slotOf axis).bind rails.get

/-- The rails of a list of axes, or the first axis that has none. -/
def plan (set : AxisSet) (rails : Triplet (Option (Rail α))) :
    List Nat → Except HomingFault (List (Nat × Rail α))
  | [] => .ok []
  | axis :: rest =>
    match railOf? set rails axis with
    | none => .error (.unknownAxis axis)
    | some rail =>
      match plan set rails rest with
      | .error fault => .error fault
      | .ok steps => .ok ((axis, rail) :: steps)

/-- The notice that an axis is about to be homed. -/
def startNotice (rail : Rail α) (move : HomingMove α) : Notice α :=
  .homingStarted rail.name move.axis (move.forcePos[move.axis]?.join)
    (move.homePos[move.axis]?.join)

variable {σ : Type}

/-- Home the rails of a plan in order, up to the first failure. -/
def perform (host : HomingHost α σ) (axisCount : Nat) :
    List (Nat × Rail α) → σ → Told α (Except HomingFault Unit × σ)
  | [], state => pure (.ok (), state)
  | (axis, rail) :: rest, state =>
    match HomingMove.ofRail? axis rail axisCount with
    | none => pure (.error (.noTargets axis axisCount), state)
    | some move => do
      Noted.note (startNotice rail move)
      match ← host.homeRails state [rail] move with
      | (.error fault, after) => return (.error fault, after)
      | (.ok (), after) =>
        Noted.note (.railHomed rail.name axis)
        perform host axisCount rest after

/-- Home every axis that the host wants. -/
def homeInOrder (host : HomingHost α σ) (axisCount : Nat) (set : AxisSet)
    (rails : Triplet (Option (Rail α))) (state : σ) : Told α (Except HomingFault Unit × σ) :=
  match plan set rails (host.wanted state) with
  | .error fault => pure (.error fault, state)
  | .ok steps => perform host axisCount steps state

end Homing

end BeltGantry

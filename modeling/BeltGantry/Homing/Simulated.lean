import BeltGantry.Homing
namespace BeltGantry

/-!
# Simulated homing

A host without hardware.  Every endstop triggers at its configured place, except
that of one axis which may be told to stay silent.  What was homed is recorded in
order, in one list the moves and in another one the names of the rails.
-/

structure SimulatedHoming (α : Type) where
  wanted : List Nat
  /-- The axis whose endstop stays silent. -/
  silent : Option Nat := none
  /-- The moves performed so far. -/
  moves : List (HomingMove α) := []
  /-- Names of the rails homed so far. -/
  homedRails : List String := []

namespace SimulatedHoming

variable {α : Type} [Scalar α]

/-- Let the endstop of an axis stay silent from now on. -/
def failingOn (homing : SimulatedHoming α) (axis : Nat) : SimulatedHoming α :=
  { homing with silent := some axis }

/-- The axes homed so far. -/
def homedAxes (homing : SimulatedHoming α) : List Nat := homing.moves.map HomingMove.axis

/-- Perform a homing move with the first of some rails. -/
def homeRails (homing : SimulatedHoming α) (rails : List (Rail α)) (move : HomingMove α) :
    Told α (Except HomingFault Unit × SimulatedHoming α) :=
  let name := (rails.head?.map Rail.name).getD ""
  if homing.silent = some move.axis then
    ⟨(.error (.noTrigger name), homing), [.endstopSilent name]⟩
  else
    pure (.ok (), { homing with
      moves := homing.moves ++ [move]
      homedRails := homing.homedRails ++ [name] })

/-- The place of an axis number within three numbers. -/
def slotWithin (triplet : Triplet Nat) (axis : Nat) : Option Slot :=
  Slot.all.find? fun slot => triplet.get slot == axis

/-- Where a position ends up after a homing move: at the endstop in the slot of
the homed axis, or at zero there when the move has no target. -/
def afterMove (triplet : Triplet Nat) (position : Point α) (move : HomingMove α) : Point α :=
  match slotWithin triplet move.axis with
  | none => position
  | some slot => position.set slot ((move.homePos[move.axis]?.join).getD 0.0)

/-- Position within a triplet after homing, zero in the slots not homed. -/
def finalPosition (homing : SimulatedHoming α) (triplet : Triplet Nat) : Point α :=
  homing.moves.foldl (afterMove triplet) (Triplet.const 0.0)

/-- The simulation as a performer of homing moves. -/
def host : HomingHost α (SimulatedHoming α) where
  wanted := SimulatedHoming.wanted
  homeRails := homeRails

end SimulatedHoming

end BeltGantry

import BeltGantry.Scalar
import BeltGantry.Slot
namespace BeltGantry

/-!
# Moves

A move leads from one point to another under a cap on its cruise speed, which
is kept squared, and a cap on its acceleration.  Two values follow from the caps
and the distance: the least duration that the speed cap allows, and the greatest
change of the squared speed that the acceleration allows.  `Move.cap` lowers the
caps and never raises them.
-/

/-- The least time that a move takes.  A speed that is not above zero never
ends it. -/
inductive Duration (α : Type) where
  | seconds (time : α)
  | unbounded
  deriving DecidableEq, Repr

/-- A move as the planner sees it. -/
structure Move (α : Type) where
  startPos : Point α
  endPos : Point α
  /-- Displacement in each slot. -/
  travel : Triplet α
  /-- Length of the displacement. -/
  distance : α
  /-- Cap on the acceleration. -/
  accel : α
  /-- Square of the cap on the cruise speed. -/
  maxCruiseSquared : α
  leastDuration : Duration α
  /-- Greatest change of the squared speed over the whole move. -/
  squaredGain : α
  deriving DecidableEq, Repr

variable {α : Type} [Scalar α]

/-- Time to cover a distance at a speed. -/
def Duration.ofSpeed (distance speed : α) : Duration α :=
  if (0.0 : α) < speed then .seconds (distance / speed) else .unbounded

namespace Move

/-- The straight move between two points.  The squares of the displacements are
summed in slot order. -/
def between [SquareRoot α] (startPos endPos : Point α) (speed accel : α) : Move α :=
  let travel : Triplet α :=
    ⟨endPos.x - startPos.x, endPos.y - startPos.y, endPos.z - startPos.z⟩
  let distance := SquareRoot.sqrt
    (travel.x * travel.x + travel.y * travel.y + travel.z * travel.z)
  { startPos := startPos
    endPos := endPos
    travel := travel
    distance := distance
    accel := accel
    maxCruiseSquared := speed * speed
    leastDuration := Duration.ofSpeed distance speed
    squaredGain := 2.0 * distance * accel }

/-- Lower the caps to a speed and an acceleration.  The speed counts only when
its square is below that of the present cap; the acceleration counts when it is
the smaller of the two. -/
def cap (move : Move α) (speed accel : α) : Move α :=
  let slowed :=
    if speed * speed < move.maxCruiseSquared then
      { move with
        maxCruiseSquared := speed * speed
        leastDuration := Duration.ofSpeed move.distance speed }
    else move
  let lowered := Scalar.lesser move.accel accel
  { slowed with
    accel := lowered
    squaredGain := 2.0 * move.distance * lowered }

/-- The cap on the cruise speed. -/
def maxCruise [SquareRoot α] (move : Move α) : α := SquareRoot.sqrt move.maxCruiseSquared

end Move

end BeltGantry

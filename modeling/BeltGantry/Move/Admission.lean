import BeltGantry.Move
import BeltGantry.Notice
namespace BeltGantry

/-!
# Admitting a move

A move is admitted when no slot that moves ends outside its limit; the first
such slot decides the reason of a refusal, which is that the slot is not homed
or that the end is out of its range.  `Limits.judge` looks at the first two
slots only when an end position lies outside one of their limits, and at all
slots again when the third one moves.  A move of the third slot is then slowed:
the caps of that slot are stretched by the ratio of the whole distance to the
part of it that the third slot covers.
-/

/-- Caps on speed and acceleration of the third slot. -/
structure ZCaps (α : Type) where
  maxVelocity : α
  maxAccel : α
  deriving DecidableEq, Repr

variable {α : Type} [Scalar α]

namespace Limits

/-- Whether a slot moves and ends outside its limit. -/
def offends (limits : Limits α) (move : Move α) (slot : Slot) : Bool :=
  !(move.travel.get slot == (0.0 : α)) && !(limits.get slot).contains (move.endPos.get slot)

/-- The first slot that moves and ends outside its limit. -/
def firstOffender (limits : Limits α) (move : Move α) : Option Slot :=
  Slot.all.find? (limits.offends move)

/-- Why an offending slot is refused. -/
def reason (limits : Limits α) (slot : Slot) : Rejection :=
  if (limits.get slot).isHomed then .outOfRange else .notHomed

/-- Refuse a move that has an offending slot. -/
def diagnose (limits : Limits α) (move : Move α) : Told α (Except (MoveFault α) Unit) :=
  match limits.firstOffender move with
  | none => pure (.ok ())
  | some slot =>
    ⟨.error ⟨limits.reason slot, move.endPos⟩, [.slotRejected slot (limits.reason slot)]⟩

/-- The move with its caps lowered so that the third slot keeps its own caps. -/
def slowedForZ (caps : ZCaps α) (move : Move α) : Move α :=
  let ratio := move.distance / Scalar.magnitude move.travel.z
  move.cap (caps.maxVelocity * ratio) (caps.maxAccel * ratio)

/-- Decide a move, and lower its caps if it is admitted and moves the third
slot.  A refused move stays as it is. -/
def judge (limits : Limits α) (caps : ZCaps α) (move : Move α) :
    Told α (Except (MoveFault α) Unit × Move α) := do
  let insidePlane := limits.x.contains move.endPos.x && limits.y.contains move.endPos.y
  let inPlane ← if insidePlane then pure (.ok ()) else limits.diagnose move
  match inPlane with
  | .error fault => return (.error fault, move)
  | .ok () =>
    if move.travel.z == (0.0 : α) then return (.ok (), move)
    else
      match ← limits.diagnose move with
      | .error fault => return (.error fault, move)
      | .ok () => return (.ok (), slowedForZ caps move)

end Limits

end BeltGantry

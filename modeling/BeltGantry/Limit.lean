import BeltGantry.Scalar
import BeltGantry.Slot
namespace BeltGantry

/-!
# Travel limits

The interval of positions known to be safe in a slot.  A slot that has not been
homed carries the limit `unhomed`, whose ends are the wrong way round, so that
it contains no position.  Being homed is not stored: it is read off the ends.
-/

/-- Lowest and highest position that a slot may be moved to. -/
structure Limit (α : Type) where
  low : α
  high : α
  deriving DecidableEq, Repr

namespace Limit

variable {α : Type} [Scalar α]

/-- The limit of a slot whose position is not known. -/
def unhomed : Limit α := ⟨1.0, -1.0⟩

def isHomed (limit : Limit α) : Bool := limit.low ≤ limit.high

def contains (limit : Limit α) (position : α) : Bool :=
  limit.low ≤ position && position ≤ limit.high

end Limit

/-- The limits of the three slots of a gantry. -/
abbrev Limits (α : Type) := Triplet (Limit α)

namespace Limits

variable {α : Type} [Scalar α]

/-- No slot is homed. -/
def unhomed : Limits α := Triplet.const Limit.unhomed

/-- The slots that are homed, in slot order. -/
def homedSlots (limits : Limits α) : List Slot :=
  Slot.all.filter fun slot => (limits.get slot).isHomed

end Limits

end BeltGantry

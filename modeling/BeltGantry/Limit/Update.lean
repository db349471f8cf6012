import BeltGantry.Notice
namespace BeltGantry.Limits

/-!
# Changing limits

Every change replaces the limit of one slot, or all three by the unhomed limit.
-/

variable {α : Type} [Scalar α]

/-- Give a slot a limit. -/
def update (limits : Limits α) (slot : Slot) (limit : Limit α) : Told α (Limits α) :=
  ⟨limits.set slot limit, [.limitSet slot limit]⟩

/-- Forget the position of a slot. -/
def forget (limits : Limits α) (slot : Slot) : Told α (Limits α) :=
  update limits slot Limit.unhomed

/-- Forget the positions of all slots. -/
def reset : Told α (Limits α) := ⟨unhomed, [.limitsReset]⟩

/-- All motors lost power: no slot is homed any more. -/
def motorsOff (time : α) : Told α (Limits α) := ⟨unhomed, [.motorsOff time]⟩

/-- A request to change limits. -/
inductive Request (α : Type) where
  | update (slot : Slot) (limit : Limit α)
  | forget (slot : Slot)
  | reset
  | motorsOff (time : α)

def perform (limits : Limits α) : Request α → Told α (Limits α)
  | .update slot limit => update limits slot limit
  | .forget slot => forget limits slot
  | .reset => reset
  | .motorsOff time => motorsOff time

end BeltGantry.Limits

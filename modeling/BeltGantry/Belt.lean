import BeltGantry.Scalar
import BeltGantry.Slot
namespace BeltGantry

/-!
# The crossed belts

One belt of the coupled pair moves by `x + y`, the other by `x - y`; the
third rail follows its own component.  `Binding` says which of the three
rules a rail obeys, `Binding.railPosition` applies it to a machine
coordinate, and `forward` recovers the machine coordinate from the three
rail positions.  In exact arithmetic the two directions undo each other; in
binary64 each rounds on its own.
-/

/-- The rule that turns a machine coordinate into the position of a rail. -/
inductive Binding where
  | coupledPlus
  | coupledMinus
  | independent
  deriving DecidableEq, Repr

namespace Binding

/-- The first two slots form the coupled pair. -/
def ofSlot : Slot → Binding
  | .x => coupledPlus
  | .y => coupledMinus
  | .z => independent

def name : Binding → String
  | coupledPlus => "coupled-plus"
  | coupledMinus => "coupled-minus"
  | independent => "independent"

/-- Position of a rail with this binding at a machine coordinate. -/
def railPosition {α : Type} [Scalar α] (binding : Binding) (coordinate : Point α) : α :=
  match binding with
  | coupledPlus => coordinate.x + coordinate.y
  | coupledMinus => coordinate.x - coordinate.y
  | independent => coordinate.z

end Binding

/-- Rail positions of a machine coordinate, each slot with its own binding. -/
def railPositions {α : Type} [Scalar α] (coordinate : Point α) : Triplet α :=
  Triplet.ofSlots fun slot => (Binding.ofSlot slot).railPosition coordinate

/-- Machine coordinate at which the three rails have the given positions. -/
def forward {α : Type} [Scalar α] (rails : Triplet α) : Point α :=
  ⟨0.5 * (rails.x + rails.y), 0.5 * (rails.x - rails.y), rails.z⟩

end BeltGantry

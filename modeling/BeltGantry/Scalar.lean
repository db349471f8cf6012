namespace BeltGantry

/-!
# The numbers of a coordinate

Everything the gantry computes is written once, over an arbitrary `Scalar`.
The program runs it on binary64, where comparisons may fail in both
directions; a proof about exact arithmetic runs the same definitions on an
ordered field.  A scalar brings only the operations that the rules use: the
four arithmetic operations, sign change, two comparisons, an equality test
and decimal literals.  No law is assumed, since binary64 satisfies few of
them.  The square root is a class of its own because a single rule needs it.
-/

/-- Arithmetic, comparisons that can be decided, and decimal literals. -/
class Scalar (α : Type) extends
    Add α, Sub α, Mul α, Div α, Neg α, LT α, LE α, BEq α, OfScientific α where
  decideLT : (first second : α) → Decidable (first < second)
  decideLE : (first second : α) → Decidable (first ≤ second)

/-- A square root, used for the length of a displacement. -/
class SquareRoot (α : Type) where
  sqrt : α → α

namespace Scalar

variable {α : Type} [Scalar α]

instance (first second : α) : Decidable (first < second) := decideLT first second

instance (first second : α) : Decidable (first ≤ second) := decideLE first second

/-- Distance from zero.  A value that is not below zero is kept as it is, so
zeros keep their sign; no rule takes the magnitude of a zero. -/
def magnitude (value : α) : α :=
  if value < (0.0 : α) then -value else value

/-- The smaller of two values.  A value that does not equal itself, the only
kind that compares with nothing, is passed over in favour of the other. -/
def lesser (first second : α) : α :=
  if second < first then second else if first == first then first else second

end Scalar

/-- Binary64, with the comparisons of IEEE 754. -/
instance : Scalar Float where
  decideLT _ _ := inferInstance
  decideLE _ _ := inferInstance

instance : SquareRoot Float where
  sqrt := Float.sqrt

end BeltGantry

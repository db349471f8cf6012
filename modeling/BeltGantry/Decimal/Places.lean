import BeltGantry.Decimal.Layout
namespace BeltGantry.Decimal

/-!
# A fixed number of decimal places

The exact value of a binary64 number, rounded to a number of decimal places.
A half goes to the even neighbour.  The sign stays even when the rounded value
is zero.
-/

/-- The quotient of two natural numbers rounded to a whole one, a half going
to the even neighbour. -/
def roundedQuotient (number divisor : Nat) : Nat :=
  let quotient := number / divisor
  let doubled := 2 * (number % divisor)
  if divisor < doubled ∨ (divisor = doubled ∧ quotient % 2 = 1) then quotient + 1 else quotient

/-- Rounding moves a quotient by at most one half. -/
theorem roundedQuotient_within (number : Nat) {divisor : Nat} (positive : 0 < divisor) :
    2 * number ≤ (2 * roundedQuotient number divisor + 1) * divisor ∧
      2 * roundedQuotient number divisor * divisor ≤ 2 * number + divisor := by
  have split := Nat.div_add_mod number divisor
  have small := Nat.mod_lt number positive
  have commuted : divisor * (number / divisor) = number / divisor * divisor := Nat.mul_comm _ _
  unfold roundedQuotient
  dsimp only
  generalize number / divisor = quotient at *
  generalize number % divisor = remainder at *
  subst split
  split
  · constructor <;> grind
  · constructor <;> grind

/-- The text of a number with a fixed number of decimal places. -/
def fixed (places : Nat) (value : Float) : String :=
  match Binary.ofFloat value with
  | .notANumber => "NaN"
  | .infinite negative => signed negative "inf"
  | .finite negative significand exponent _ =>
    let (factor, divisor) := unitRatio exponent (-places)
    signed negative (positional "" ⟨roundedQuotient (significand * factor) divisor, -places⟩)

end BeltGantry.Decimal

import BeltGantry.Decimal.Binary
namespace BeltGantry.Decimal

/-!
# The shortest decimal that reads back

The reals that round to a binary64 value form an interval around it, its ends
included exactly when the significand is even.  A decimal reads back as the
value when it lies in that interval.  `shortest` takes the fewest digits for
which some decimal does: on each decimal grid it is enough to test the two
neighbours of the value.  Of two neighbours that both read back the nearer one
is taken; a `Tie` settles which when they are equally near.
-/

/-- The neighbour taken of two that are equally near. -/
inductive Tie where
  | upper
  | even
  deriving DecidableEq, Repr

/-- `digits * 10 ^ exponent`. -/
structure Digits where
  digits : Nat
  exponent : Int
  deriving DecidableEq, Repr

/-- Number of decimal digits of a natural number, zero having one. -/
def digitCount (number : Nat) : Nat := (Nat.toDigits 10 number).length

namespace Digits

/-- Drop trailing zeros of the digits.  The bound is the count of digits,
more than can ever be dropped. -/
def trimmed (decimal : Digits) : Digits :=
  go (digitCount decimal.digits) decimal
where
  go : Nat → Digits → Digits
    | 0, decimal => decimal
    | bound + 1, decimal =>
      if decimal.digits ≠ 0 ∧ decimal.digits % 10 = 0 then
        go bound ⟨decimal.digits / 10, decimal.exponent + 1⟩
      else decimal

/-- Exponent of the leading digit: the value is `d.ddd * 10 ^ leading`. -/
def leading (decimal : Digits) : Int := digitCount decimal.digits - 1 + decimal.exponent

end Digits

/-- The factor and the divisor that express a multiple of `2 ^ binary` in
units of `10 ^ decimal`. -/
def unitRatio (binary decimal : Int) : Nat × Nat :=
  (Nat.pow 2 binary.toNat * Nat.pow 10 (-decimal).toNat,
    Nat.pow 2 (-binary).toNat * Nat.pow 10 decimal.toNat)

/-- The decimal on the grid of step `10 ^ step` that reads back as
`significand * 2 ^ exponent` and is nearest to it, if the grid has one.
Lengths are counted in quarters of the last binary place, in which the ends of
the interval are whole. -/
def onGrid? (tie : Tie) (significand : Nat) (exponent : Int) (narrow : Bool) (step : Int) :
    Option Digits :=
  let (factor, divisor) := unitRatio (exponent - 2) step
  let value := 4 * significand * factor
  let lowest := (4 * significand - if narrow then 1 else 2) * factor
  let highest := (4 * significand + 2) * factor
  let even := significand % 2 == 0
  let below := value / divisor
  let belowFits := if even then lowest ≤ below * divisor else lowest < below * divisor
  let aboveFits := if even then (below + 1) * divisor ≤ highest else (below + 1) * divisor < highest
  let doubled := 2 * (value % divisor)
  let nearerAbove := divisor < doubled ∨ (divisor = doubled ∧ (tie = .upper ∨ below % 2 = 1))
  if aboveFits ∧ (¬ belowFits ∨ nearerAbove) then some ⟨below + 1, step⟩
  else if belowFits then some ⟨below, step⟩
  else none

/-- The exponent `p` with `10 ^ (p - 1) ≤ significand * 2 ^ exponent < 10 ^ p`.
A logarithm of the leading bit comes within two of it from below. -/
def magnitudeAbove (significand : Nat) (exponent : Int) : Int :=
  let estimate := (significand.log2 + exponent) * 30103 / 100000
  let isBelow (power : Int) : Bool :=
    let (factor, divisor) := unitRatio exponent power
    significand * factor < divisor
  if isBelow estimate then estimate
  else if isBelow (estimate + 1) then estimate + 1
  else estimate + 2

/-- The fewest digits that read back as a positive binary64 value, found on
the first of the grids from one digit to seventeen that holds a decimal which
does. -/
def shortest (tie : Tie) (significand : Nat) (exponent : Int) (narrow : Bool) : Digits :=
  let top := magnitudeAbove significand exponent
  let grids := (List.range 17).map fun count => top - (count + 1 : Nat)
  match grids.findSome? (onGrid? tie significand exponent narrow) with
  | some decimal => decimal.trimmed
  | none => ⟨significand, 0⟩

end BeltGantry.Decimal

namespace BeltGantry.Decimal

/-!
# Binary64 values taken apart

A finite binary64 value is `significand * 2 ^ exponent` up to sign.  Every
decimal form of a number is computed from these natural numbers, so no
rounding takes place before the rule of the form asks for it.
-/

/-- The content of a binary64 value.  `narrow` marks a power of two above the
smallest normal number: its lower neighbour is half as far as its upper one. -/
inductive Binary where
  | notANumber
  | infinite (negative : Bool)
  | finite (negative : Bool) (significand : Nat) (exponent : Int) (narrow : Bool)
  deriving DecidableEq, Repr

namespace Binary

/-- Read sign, biased exponent and fraction from the sixty-four bits. -/
def ofBits (bits : Nat) : Binary :=
  let negative := bits / Nat.pow 2 63 % 2 == 1
  let biased : Nat := bits / Nat.pow 2 52 % Nat.pow 2 11
  let fraction : Nat := bits % Nat.pow 2 52
  if biased = Nat.pow 2 11 - 1 then
    if fraction = 0 then infinite negative else notANumber
  else if biased = 0 then finite negative fraction (-1074) false
  else finite negative (Nat.pow 2 52 + fraction) ((biased : Int) - 1075) (fraction = 0 && biased > 1)

def ofFloat (value : Float) : Binary := ofBits value.toBits.toNat

end Binary

end BeltGantry.Decimal

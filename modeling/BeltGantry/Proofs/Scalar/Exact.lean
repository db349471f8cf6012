import Mathlib.Algebra.Order.Field.Basic
import Mathlib.Tactic.NormNum.OfScientific
import Mathlib.Tactic.Ring
import BeltGantry.Proofs.Gantry.Command
namespace BeltGantry

/-!
# Exact arithmetic

The definitions of this library take any scalar, so they can be read over an
ordered field as well, such as the rationals, where decimal literals have their
exact values and nothing is rounded.  Read that way, the two directions of the
crossed belts are inverse to each other.
-/

instance Scalar.ofField {K : Type} [Field K] [LinearOrder K] : Scalar K where
  decideLT _ _ := inferInstance
  decideLE _ _ := inferInstance

variable {K : Type} [Field K] [LinearOrder K] [IsStrictOrderedRing K]

theorem forward_railPositions (coordinate : Point K) :
    forward (railPositions coordinate) = coordinate := by
  ext slot
  cases slot with
  | x =>
    change 0.5 * ((coordinate.x + coordinate.y) + (coordinate.x - coordinate.y)) = coordinate.x
    ring
  | y =>
    change 0.5 * ((coordinate.x + coordinate.y) - (coordinate.x - coordinate.y)) = coordinate.y
    ring
  | z => rfl

theorem railPositions_forward (rails : Triplet K) : railPositions (forward rails) = rails := by
  ext slot
  cases slot with
  | x =>
    change 0.5 * (rails.x + rails.y) + 0.5 * (rails.x - rails.y) = rails.x
    ring
  | y =>
    change 0.5 * (rails.x + rails.y) - 0.5 * (rails.x - rails.y) = rails.y
    ring
  | z => rfl

theorem originRests_exact : OriginRests K := by
  intro binding
  cases binding with
  | coupledPlus =>
    change (0.0 : K) + 0.0 = 0.0
    norm_num
  | coupledMinus =>
    change (0.0 : K) - 0.0 = 0.0
    norm_num
  | independent => rfl

end BeltGantry

import BeltGantry.Scalar
import Mathlib.Data.Int.Order.Basic
import Mathlib.Data.Prod.Lex
namespace BeltGantry.Binary64

open Float.Model

/-!
# The order of binary64

Values of binary64 that are numbers, infinities among them, stand in a line; NaN
stands nowhere.  `rank` gives each value its place in that line, and a
comparison holds exactly when both values have a place and the places compare.
What follows for the checks of this library: `≤` is transitive, and a comparison
that was refused in one direction holds in the other unless one side is NaN.
Nothing is said about arithmetic, which rounds.
-/

/-- Place of an unpacked value: its sign and kind first, then the exponent, then
the mantissa.  Both zeros share a place. -/
def place : UnpackedFloat → Option (Int ×ₗ Int ×ₗ Int)
  | .notANumber => none
  | .infinity .negative => some (toLex (-2, toLex (0, 0)))
  | .finite .negative mantissa exponent _ => some (toLex (-1, toLex (-exponent, -mantissa)))
  | .zero _ => some (toLex (0, toLex (0, 0)))
  | .finite .positive mantissa exponent _ => some (toLex (1, toLex (exponent, mantissa)))
  | .infinity .positive => some (toLex (2, toLex (0, 0)))

/-- Place of a value in the order of binary64. -/
def rank (value : Float) : Option (Int ×ₗ Int ×ₗ Int) := place value.toModel.unpack

theorem compare_toLex {β γ : Type} [Ord β] [Ord γ] (first second : β) (third fourth : γ) :
    compare (toLex (first, third)) (toLex (second, fourth)) =
      (compare first second).then (compare third fourth) := rfl

theorem compare_neg (first second : Int) :
    compare (-first) (-second) = (compare first second).swap := by
  rw [Int.compare_swap]
  simp only [compare, compareOfLessAndEq]
  grind

theorem compare_natCast (first second : Nat) :
    compare (first : Int) second = compare first second := by
  simp only [compare, compareOfLessAndEq]
  grind

/-- The comparison of IEEE 754 is the comparison of places. -/
theorem compare_eq_places (first second : UnpackedFloat) :
    first.compare second =
      (place first).bind fun below => (place second).map fun above => compare below above := by
  -- Values of different sign or kind are told apart by the first component alone.
  rcases first with ⟨⟨⟩⟩ | - | ⟨⟩ | ⟨⟨⟩, mantissa, exponent, _⟩ <;>
    rcases second with ⟨⟨⟩⟩ | - | ⟨⟩ | ⟨⟨⟩, otherMantissa, otherExponent, _⟩ <;> try rfl
  · change some ((compare exponent otherExponent).then (compare mantissa otherMantissa)).swap =
      some (compare (toLex (-1, toLex (-exponent, -(mantissa : Int))))
        (toLex (-1, toLex (-otherExponent, -(otherMantissa : Int)))))
    rw [compare_toLex, compare_toLex, compare_neg exponent, compare_neg mantissa,
      compare_natCast, Ordering.swap_then]
    rfl
  · change some ((compare exponent otherExponent).then (compare mantissa otherMantissa)) =
      some (compare (toLex (1, toLex (exponent, (mantissa : Int))))
        (toLex (1, toLex (otherExponent, (otherMantissa : Int)))))
    rw [compare_toLex, compare_toLex, compare_natCast]
    rfl

theorem le_iff_ranks {first second : Float} : first ≤ second ↔
    ∃ below above, rank first = some below ∧ rank second = some above ∧ below ≤ above := by
  have unfolded : first ≤ second ↔ first.toModel.unpack.le second.toModel.unpack = true := by
    change (decide (first.toModel.unpack.le second.toModel.unpack = true) = true) ↔ _
    rw [decide_eq_true_iff]
  rw [unfolded, UnpackedFloat.le, compare_eq_places]
  unfold rank
  cases place first.toModel.unpack <;> cases place second.toModel.unpack <;>
    simp [Ordering.isLE_iff_ne_gt, compare_le_iff_le]

theorem lt_iff_ranks {first second : Float} : first < second ↔
    ∃ below above, rank first = some below ∧ rank second = some above ∧ below < above := by
  have unfolded : first < second ↔ first.toModel.unpack.lt second.toModel.unpack = true := by
    change (decide (first.toModel.unpack.lt second.toModel.unpack = true) = true) ↔ _
    rw [decide_eq_true_iff]
  rw [unfolded, UnpackedFloat.lt, compare_eq_places]
  unfold rank
  cases place first.toModel.unpack <;> cases place second.toModel.unpack <;>
    simp [compare_lt_iff_lt]

/-- NaN is the only value without a place. -/
theorem place_eq_none_iff (value : UnpackedFloat) : place value = none ↔ value.isNaN = true := by
  cases value with
  | notANumber => exact iff_of_true rfl rfl
  | infinity sign => cases sign <;> exact iff_of_false nofun nofun
  | zero sign => exact iff_of_false nofun nofun
  | finite sign mantissa exponent valid => cases sign <;> exact iff_of_false nofun nofun

theorem rank_eq_none_iff {value : Float} : rank value = none ↔ value.isNaN = true :=
  place_eq_none_iff value.toModel.unpack

theorem exists_rank_iff {value : Float} :
    (∃ placed, rank value = some placed) ↔ value.isNaN = false := by
  rw [← Option.ne_none_iff_exists', Ne, rank_eq_none_iff, Bool.not_eq_true]

theorem le_trans {first second third : Float} (below : first ≤ second)
    (above : second ≤ third) : first ≤ third := by
  rcases le_iff_ranks.mp below with ⟨low, middle, atLow, atMiddle, lowMiddle⟩
  rcases le_iff_ranks.mp above with ⟨middle', high, atMiddle', atHigh, middleHigh⟩
  have same : middle = middle' := Option.some.inj (atMiddle.symm.trans atMiddle')
  exact le_iff_ranks.mpr ⟨low, high, atLow, atHigh, lowMiddle.trans (same ▸ middleHigh)⟩

theorem le_of_lt {first second : Float} (below : first < second) : first ≤ second := by
  rcases lt_iff_ranks.mp below with ⟨low, high, atLow, atHigh, lowHigh⟩
  exact le_iff_ranks.mpr ⟨low, high, atLow, atHigh, lowHigh.le⟩

/-- A refused `≤` leaves the strict comparison the other way, or NaN. -/
theorem lt_iff_of_not_le {first second : Float} (refused : ¬ second ≤ first) :
    first < second ↔ first.isNaN = false ∧ second.isNaN = false := by
  rw [← exists_rank_iff, ← exists_rank_iff, lt_iff_ranks]
  constructor
  · rintro ⟨low, high, atLow, atHigh, -⟩
    exact ⟨⟨low, atLow⟩, ⟨high, atHigh⟩⟩
  · rintro ⟨⟨low, atLow⟩, ⟨high, atHigh⟩⟩
    refine ⟨low, high, atLow, atHigh, not_le.mp ?_⟩
    intro highLow
    exact refused (le_iff_ranks.mpr ⟨high, low, atHigh, atLow, highLow⟩)

/-- A refused `<` leaves `≤` the other way, or NaN. -/
theorem le_iff_of_not_lt {first second : Float} (refused : ¬ second < first) :
    first ≤ second ↔ first.isNaN = false ∧ second.isNaN = false := by
  rw [← exists_rank_iff, ← exists_rank_iff, le_iff_ranks]
  constructor
  · rintro ⟨low, high, atLow, atHigh, -⟩
    exact ⟨⟨low, atLow⟩, ⟨high, atHigh⟩⟩
  · rintro ⟨⟨low, atLow⟩, ⟨high, atHigh⟩⟩
    refine ⟨low, high, atLow, atHigh, not_lt.mp ?_⟩
    intro highLow
    exact refused (lt_iff_ranks.mpr ⟨high, low, atHigh, atLow, highLow⟩)

end BeltGantry.Binary64

import BeltGantry.Proofs.Scalar.Rounding
namespace BeltGantry.Binary64

open Float.Model UnpackedFloat

/-!
# Arithmetic of binary64

Sums, differences and products of finite values are rounded (`rounds_add`, `rounds_sub`,
`rounds_mul`), overflow and underflow included, and are never NaN.  A difference is a sum
with the second operand negated, down to the bits.  Operations on infinities and NaN are
stated as far as they are needed.
-/

/-! ## Operations -/

theorem fields_of_isNaN {bits : BitVec Format.binary64.numBits}
    (undefined : (UnpackedFloat.unpack Format.binary64 bits).isNaN = true) :
    unpackExponent bits = -1#_ ∧ unpackMantissa bits ≠ 0#_ := by
  unfold UnpackedFloat.unpack at undefined
  dsimp only at undefined
  split at undefined
  · rename_i exponentAll
    split at undefined
    · cases undefined
    · rename_i mantissaNonzero
      exact ⟨exponentAll, mantissaNonzero⟩
  · split at undefined
    · split at undefined <;> cases undefined
    · cases undefined

/-- Packing makes no NaN. -/
theorem isNaN_unpack_pack {value : UnpackedFloat} (numeric : value.isNaN = false) :
    (Float.Model.pack value).unpack.isNaN = false := by
  cases value with
  | notANumber => cases numeric
  | infinity sign =>
    rw [unpack_pack_infinity]
    rfl
  | zero sign =>
    rw [unpack_pack_zero]
    rfl
  | finite sign mantissa exponent positive =>
    rw [← Bool.not_eq_true]
    intro undefined
    have fields := @fields_of_isNaN
      (UnpackedFloat.pack Format.binary64 (.finite sign mantissa exponent positive)) undefined
    unfold UnpackedFloat.pack at fields
    dsimp only at fields
    split at fields
    · rw [packedInfinity, unpackMantissa_packComponents] at fields
      exact fields.2 rfl
    · rename_i finite
      split at fields
      · rw [unpackExponent_packComponents] at fields
        refine ofNat_ne_of_toNat_ne ?_ ?_ fields.1
        · exact lt_of_not_ge fun large => finite (large.trans (Nat.le_succ _))
        · intro all
          rw [← all] at finite
          exact finite (by decide)
      · rw [unpackExponent_packComponents] at fields
        exact absurd fields.1 (by decide)

theorem apply_neg (sign : Sign) (number : Int) : (-sign).apply number = -sign.apply number := by
  cases sign
  · exact (neg_neg number).symm
  · rfl

theorem tally_neg (value : UnpackedFloat) : tally value.neg = -tally value := by
  cases value with
  | notANumber => rfl
  | zero sign => rfl
  | infinity sign => exact apply_neg sign _
  | finite sign mantissa exponent positive => exact apply_neg sign _

theorem sub_eq_add_neg (first second : UnpackedFloat) :
    sub Format.binary64 first second = add Format.binary64 first second.neg := by
  rcases first with sign | - | sign | ⟨sign, mantissa, exponent, positive⟩ <;>
    rcases second with other | - | other | ⟨other, otherMantissa, otherExponent, otherPositive⟩ <;>
    try rfl
  unfold UnpackedFloat.neg UnpackedFloat.sub UnpackedFloat.add
  dsimp only
  rw [apply_neg, Int.sub_eq_add_neg]

/-- The mantissa of a sum, brought to the smaller exponent. -/
theorem apply_decreaseExponent (sign : Sign) (mantissa : Nat) {exponent smaller : Int}
    (least : -1074 ≤ smaller) (below : smaller ≤ exponent) :
    sign.apply (decreaseExponent mantissa exponent smaller).1 * 2 ^ (smaller + 1074).toNat =
      sign.apply (span mantissa exponent) := by
  have places : (exponent + 1074).toNat =
      (exponent - smaller).toNat + (smaller + 1074).toNat := by omega
  have magnitude : (decreaseExponent mantissa exponent smaller).1 * 2 ^ (smaller + 1074).toNat =
      span mantissa exponent := by
    rw [span, places, Nat.pow_add, ← Nat.mul_assoc, ← Nat.shiftLeft_eq mantissa]
    rfl
  rw [← magnitude]
  cases sign <;> simp [Sign.apply]

theorem isNaN_roundWithAccuracy (sign : Sign) (mantissa : Nat) (exponent : Int) :
    (roundWithAccuracy Format.binary64 sign mantissa exponent .exact).isNaN = false := by
  unfold roundWithAccuracy
  dsimp only
  split <;> rfl

theorem isNaN_normalize (mantissa exponent : Int) (zeroSign : Sign) :
    (UnpackedFloat.normalize Format.binary64 mantissa exponent zeroSign).isNaN = false := by
  unfold UnpackedFloat.normalize
  split
  · exact isNaN_roundWithAccuracy _ _ _
  · rfl
  · exact isNaN_roundWithAccuracy _ _ _

theorem apply_mul (first second : Sign) (magnitude other : Nat) :
    (first * second).apply (magnitude * other : Nat) =
      first.apply magnitude * second.apply other := by
  rw [Int.natCast_mul]
  cases first <;> cases second
  · exact (neg_mul_neg _ _).symm
  · exact (neg_mul _ _).symm
  · exact (mul_neg _ _).symm
  · rfl

/-- A product of stored magnitudes has enough places to be cut. -/
theorem mul_placed {mantissa other : Nat} {exponent otherExponent : Int}
    (stored : Stored mantissa exponent) (positive : 0 < mantissa)
    (otherStored : Stored other otherExponent) (otherPositive : 0 < other) :
    exponent + otherExponent ≤ level (mantissa * other) (exponent + otherExponent) := by
  rw [level_eq]
  have long (large : 2 ^ 52 ≤ mantissa * other) : 52 ≤ (mantissa * other).log2 :=
    (Nat.le_log2 (Nat.mul_pos positive otherPositive).ne').mpr large
  rcases stored.full with atLeast | large
  · rcases otherStored.full with otherAtLeast | otherLarge
    · omega
    · have enough := long (otherLarge.trans (Nat.le_mul_of_pos_left other positive))
      omega
  · have enough := long (large.trans (Nat.le_mul_of_pos_right mantissa otherPositive))
    omega

section

variable {first second : UnpackedFloat} (firstStored : IsStored first)
  (secondStored : IsStored second) (firstFinite : first.isFinite = true)
  (secondFinite : second.isFinite = true)

include firstStored secondStored firstFinite secondFinite

theorem rounds_unpacked_add :
    (add Format.binary64 first second).isNaN = false ∧
      Rounds 0 (tally first + tally second)
        (tally (Float.Model.pack (add Format.binary64 first second)).unpack) := by
  -- With a zero the other operand is the sum.
  cases first with
  | notANumber => cases firstFinite
  | infinity sign => cases firstFinite
  | zero sign =>
    cases second with
    | notANumber => cases secondFinite
    | infinity other => cases secondFinite
    | zero other =>
      cases sign <;> cases other <;> exact ⟨rfl, Rounds.of_eq rfl⟩
    | finite other mantissa exponent positive =>
      refine ⟨rfl, Rounds.of_eq ?_⟩
      change _ = tally (Float.Model.pack (.finite other mantissa exponent positive)).unpack * 1
      rw [unpack_pack_of_stored positive secondStored, mul_one]
      exact zero_add _
  | finite sign mantissa exponent positive =>
    cases second with
    | notANumber => cases secondFinite
    | infinity other => cases secondFinite
    | zero other =>
      refine ⟨rfl, Rounds.of_eq ?_⟩
      change _ = tally (Float.Model.pack (.finite sign mantissa exponent positive)).unpack * 1
      rw [unpack_pack_of_stored positive firstStored, mul_one]
      exact add_zero _
    | finite other otherMantissa otherExponent otherPositive =>
      have least : -1074 ≤ min exponent otherExponent :=
        le_min firstStored.bounded.exponent secondStored.bounded.exponent
      refine ⟨isNaN_normalize _ _ _, ?_⟩
      have rounds := @rounds_normalize (sign.apply (decreaseExponent mantissa exponent
        (min exponent otherExponent)).1 + other.apply (decreaseExponent otherMantissa otherExponent
        (min exponent otherExponent)).1) _ least .positive
      rw [add_mul, apply_decreaseExponent _ _ least (min_le_left _ _),
        apply_decreaseExponent _ _ least (min_le_right _ _)] at rounds
      exact rounds

theorem rounds_unpacked_mul :
    (mul Format.binary64 first second).isNaN = false ∧
      Rounds 1074 (tally first * tally second)
        (tally (Float.Model.pack (mul Format.binary64 first second)).unpack) := by
  have exactZero (sign : Sign) :
      Rounds 1074 0 (tally (Float.Model.pack (.zero sign)).unpack) := by
    rw [unpack_pack_zero]
    exact Rounds.of_eq (zero_mul _).symm
  cases first with
  | notANumber => cases firstFinite
  | infinity sign => cases firstFinite
  | zero sign =>
    cases second with
    | notANumber => cases secondFinite
    | infinity other => cases secondFinite
    | zero other => exact ⟨rfl, exactZero _⟩
    | finite other mantissa exponent positive =>
      refine ⟨rfl, ?_⟩
      rw [tally, zero_mul]
      exact exactZero _
  | finite sign mantissa exponent positive =>
    cases second with
    | notANumber => cases secondFinite
    | infinity other => cases secondFinite
    | zero other =>
      refine ⟨rfl, ?_⟩
      rw [mul_comm, tally, zero_mul]
      exact exactZero _
    | finite other otherMantissa otherExponent otherPositive =>
      have least := firstStored.bounded.exponent
      have otherLeast := secondStored.bounded.exponent
      have scaled : (((exponent + 1074).toNat + (otherExponent + 1074).toNat : Nat) : Int) =
          exponent + otherExponent + 1074 + (1074 : Nat) := by omega
      have rounds := rounds_roundWithAccuracy (sign * other) (Nat.mul_pos positive otherPositive)
        (mul_placed firstStored positive secondStored otherPositive) scaled
      have spans : mantissa * otherMantissa *
          2 ^ ((exponent + 1074).toNat + (otherExponent + 1074).toNat) =
          span mantissa exponent * span otherMantissa otherExponent := by
        rw [span, span]
        ring
      rw [spans, apply_mul] at rounds
      exact ⟨isNaN_roundWithAccuracy _ _ _, rounds⟩

end

theorem isFinite_eq (value : Float) : value.isFinite = value.toModel.unpack.isFinite := rfl

section

variable {first second : Float} (firstFinite : first.isFinite = true)
  (secondFinite : second.isFinite = true)

include firstFinite secondFinite

theorem rounds_add :
    (first + second).isNaN = false ∧
      Rounds 0 (ticks first + ticks second) (ticks (first + second)) := by
  rcases rounds_unpacked_add (isStored first) (isStored second) firstFinite secondFinite with
    ⟨numeric, rounds⟩
  exact ⟨isNaN_unpack_pack numeric, rounds⟩

theorem rounds_sub :
    (first - second).isNaN = false ∧
      Rounds 0 (ticks first - ticks second) (ticks (first - second)) := by
  have negStored : IsStored second.toModel.unpack.neg := by
    have stored := isStored second
    cases shape : second.toModel.unpack with
    | finite sign mantissa exponent positive =>
      rw [shape] at stored
      exact stored
    | _ => trivial
  have negFinite : second.toModel.unpack.neg.isFinite = true := by
    rw [← secondFinite, isFinite_eq]
    cases second.toModel.unpack <;> rfl
  rcases rounds_unpacked_add (isStored first) negStored firstFinite negFinite with
    ⟨numeric, rounds⟩
  rw [tally_neg, ← Int.sub_eq_add_neg] at rounds
  rw [← sub_eq_add_neg] at numeric rounds
  exact ⟨isNaN_unpack_pack numeric, rounds⟩

theorem rounds_mul :
    (first * second).isNaN = false ∧
      Rounds 1074 (ticks first * ticks second) (ticks (first * second)) := by
  rcases rounds_unpacked_mul (isStored first) (isStored second) firstFinite secondFinite with
    ⟨numeric, rounds⟩
  exact ⟨isNaN_unpack_pack numeric, rounds⟩

end

/-! ## Infinities and NaN -/

theorem isNaN_eq (value : Float) : value.isNaN = value.toModel.unpack.isNaN := rfl

theorem natAbs_ticks_le (value : Float) : (ticks value).natAbs ≤ infinityTicks :=
  (onGrid_tally (isStored value)).1

theorem natAbs_ticks_lt {value : Float} (finite : value.isFinite = true) :
    (ticks value).natAbs < infinityTicks := by
  have stored := isStored value
  rw [isFinite_eq] at finite
  unfold ticks
  cases shape : value.toModel.unpack with
  | notANumber =>
    rw [shape] at finite
    cases finite
  | infinity sign =>
    rw [shape] at finite
    cases finite
  | zero sign => exact infinityTicks_pos
  | finite sign mantissa exponent positive =>
    rw [shape] at stored
    have small := Stored.span_lt stored
    cases sign <;> simpa [tally, Sign.apply] using small

/-- A number above zero is finite or the positive infinity. -/
theorem isFinite_or_infinity {value : Float} (numeric : value.isNaN = false)
    (positive : 0 < ticks value) :
    value.isFinite = true ∨ value.toModel.unpack = .infinity .positive := by
  change value.toModel.unpack.isNaN = false at numeric
  unfold ticks at positive
  rw [isFinite_eq]
  cases shape : value.toModel.unpack with
  | notANumber =>
    rw [shape] at numeric
    cases numeric
  | infinity sign =>
    cases sign with
    | positive => exact .inr rfl
    | negative =>
      rw [shape, tally, Sign.apply] at positive
      omega
  | zero sign => exact .inl rfl
  | finite sign mantissa exponent kept => exact .inl rfl

theorem exists_infinity {value : UnpackedFloat} (numeric : value.isNaN = false)
    (infinite : ¬ value.isFinite = true) : ∃ sign, value = .infinity sign := by
  cases value with
  | notANumber => exact nomatch numeric
  | infinity sign => exact ⟨sign, rfl⟩
  | zero sign => exact absurd rfl infinite
  | finite sign mantissa exponent positive => exact absurd rfl infinite

theorem isNaN_of_isFinite {value : Float} (finite : value.isFinite = true) :
    value.isNaN = false := by
  rw [isFinite_eq] at finite
  rw [isNaN_eq]
  cases shape : value.toModel.unpack with
  | notANumber =>
    rw [shape] at finite
    exact nomatch finite
  | _ => rfl

/-- A number that is not at either end is finite. -/
theorem isFinite_of_natAbs_ticks_lt {value : Float} (numeric : value.isNaN = false)
    (within : (ticks value).natAbs < infinityTicks) : value.isFinite = true := by
  by_contra infinite
  rcases exists_infinity numeric infinite with ⟨sign, shape⟩
  unfold ticks at within
  rw [shape] at within
  cases sign <;> simp [tally, Sign.apply] at within

theorem unpack_add (first second : Float) : (first + second).toModel.unpack =
    (Float.Model.pack
      (add Format.binary64 first.toModel.unpack second.toModel.unpack)).unpack := rfl

theorem unpack_sub (first second : Float) : (first - second).toModel.unpack =
    (Float.Model.pack
      (sub Format.binary64 first.toModel.unpack second.toModel.unpack)).unpack := rfl

theorem unpack_mul (first second : Float) : (first * second).toModel.unpack =
    (Float.Model.pack
      (mul Format.binary64 first.toModel.unpack second.toModel.unpack)).unpack := rfl

theorem eq_notANumber {value : Float} (undefined : value.isNaN = true) :
    value.toModel.unpack = .notANumber := by
  rw [isNaN_eq] at undefined
  cases shape : value.toModel.unpack with
  | notANumber => rfl
  | _ =>
    rw [shape] at undefined
    exact nomatch undefined

theorem isNaN_add_of_right (first : Float) {second : Float} (undefined : second.isNaN = true) :
    (first + second).isNaN = true := by
  have absorbed : add Format.binary64 first.toModel.unpack .notANumber = .notANumber := by
    cases first.toModel.unpack <;> rfl
  rw [isNaN_eq, unpack_add, eq_notANumber undefined, absorbed]
  rfl

theorem isNaN_sub_of_left {first : Float} (second : Float) (undefined : first.isNaN = true) :
    (first - second).isNaN = true := by
  have absorbed : sub Format.binary64 .notANumber second.toModel.unpack = .notANumber := rfl
  rw [isNaN_eq, unpack_sub, eq_notANumber undefined, absorbed]
  rfl

theorem isNaN_sub_of_right (first : Float) {second : Float} (undefined : second.isNaN = true) :
    (first - second).isNaN = true := by
  have absorbed : sub Format.binary64 first.toModel.unpack .notANumber = .notANumber := by
    cases first.toModel.unpack <;> rfl
  rw [isNaN_eq, unpack_sub, eq_notANumber undefined, absorbed]
  rfl

theorem isNaN_mul_of_right (first : Float) {second : Float} (undefined : second.isNaN = true) :
    (first * second).isNaN = true := by
  have absorbed : mul Format.binary64 first.toModel.unpack .notANumber = .notANumber := by
    cases first.toModel.unpack <;> rfl
  rw [isNaN_eq, unpack_mul, eq_notANumber undefined, absorbed]
  rfl

theorem add_infinity {first : UnpackedFloat} (finite : first.isFinite = true) (sign : Sign) :
    add Format.binary64 first (.infinity sign) = .infinity sign := by
  cases first with
  | notANumber => exact nomatch finite
  | infinity other => exact nomatch finite
  | zero other => rfl
  | finite other mantissa exponent positive => rfl

theorem infinity_add {second : UnpackedFloat} (finite : second.isFinite = true) (sign : Sign) :
    add Format.binary64 (.infinity sign) second = .infinity sign := by
  cases second with
  | notANumber => exact nomatch finite
  | infinity other => exact nomatch finite
  | zero other => rfl
  | finite other mantissa exponent positive => rfl

theorem isFinite_neg (value : UnpackedFloat) : value.neg.isFinite = value.isFinite := by
  cases value <;> rfl

/-- A difference with an infinite operand, where the second operand lies below the first. -/
theorem sub_of_lt_of_infinite {first second : UnpackedFloat} (firstStored : IsStored first)
    (secondStored : IsStored second) (firstNumeric : first.isNaN = false)
    (secondNumeric : second.isNaN = false) (less : tally second < tally first)
    (infinite : ¬ (first.isFinite = true ∧ second.isFinite = true)) :
    sub Format.binary64 first second = .infinity .positive := by
  have firstBounded := (onGrid_tally firstStored).1
  have secondBounded := (onGrid_tally secondStored).1
  rw [sub_eq_add_neg]
  by_cases firstFinite : first.isFinite = true
  · rcases exists_infinity secondNumeric fun finite => infinite ⟨firstFinite, finite⟩ with
      ⟨sign, rfl⟩
    cases sign with
    | negative => exact add_infinity firstFinite _
    | positive =>
      change (infinityTicks : Int) < tally first at less
      omega
  · rcases exists_infinity firstNumeric firstFinite with ⟨sign, rfl⟩
    cases sign with
    | negative =>
      change tally second < -(infinityTicks : Int) at less
      omega
    | positive =>
      by_cases secondFinite : second.isFinite = true
      · exact infinity_add ((isFinite_neg second).trans secondFinite) _
      · rcases exists_infinity secondNumeric secondFinite with ⟨other, rfl⟩
        cases other with
        | negative => rfl
        | positive => exact absurd less (Int.lt_irrefl _)

/-- An infinity has no difference from itself. -/
theorem isNaN_sub_of_ticks_eq {first second : Float} (firstNumeric : first.isNaN = false)
    (secondNumeric : second.isNaN = false) (infinite : ¬ first.isFinite = true)
    (same : ticks first = ticks second) : (first - second).isNaN = true := by
  have positive := infinityTicks_pos
  have secondInfinite : ¬ second.isFinite = true := by
    intro secondFinite
    have bounded := natAbs_ticks_lt secondFinite
    exact infinite (isFinite_of_natAbs_ticks_lt firstNumeric (by omega))
  rcases exists_infinity firstNumeric infinite with ⟨sign, firstShape⟩
  rcases exists_infinity secondNumeric secondInfinite with ⟨other, secondShape⟩
  unfold ticks at same
  rw [firstShape, secondShape, tally, tally] at same
  rw [isNaN_eq, unpack_sub, firstShape, secondShape]
  cases sign <;> cases other
  · rfl
  · change -(infinityTicks : Int) = infinityTicks at same
    omega
  · change (infinityTicks : Int) = -infinityTicks at same
    omega
  · rfl

end BeltGantry.Binary64

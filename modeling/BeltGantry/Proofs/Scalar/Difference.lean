import Mathlib
import BeltGantry.Proofs.Scalar.Binary64
namespace BeltGantry.Binary64

open Float.Model UnpackedFloat

/-!
# Differences of binary64

A difference that is zero comes from equal operands, although differences are
rounded.  Two facts are behind this.  Unpacked values are canonical, so that equal
magnitudes have equal mantissas and exponents.  And rounding never loses a value
that is not zero: the exact difference has an exponent no smaller than that of the
operands, and down to the least exponent a positive mantissa rounds to a positive
one, which `pack` keeps.
-/

/-! ## Zeros and equality -/

def IsZero : UnpackedFloat → Prop
  | .zero _ => True
  | _ => False

theorem isZero_iff_place {value : UnpackedFloat} :
    IsZero value ↔ place value = some (toLex (0, toLex (0, 0))) := by
  cases value with
  | notANumber => exact iff_of_false nofun nofun
  | zero sign => exact iff_of_true trivial rfl
  | infinity sign => cases sign <;> exact iff_of_false nofun (by decide)
  | finite sign mantissa exponent positive =>
    refine iff_of_false nofun fun same => ?_
    cases sign <;> cases congrArg (fun key => (ofLex key).1) (Option.some.inj same)

/-- Values are equal if they have the same place. -/
theorem beq_iff_ranks {first second : Float} : (first == second) = true ↔
    ∃ placed, rank first = some placed ∧ rank second = some placed := by
  change (first.toModel.unpack.compare second.toModel.unpack == some .eq) = true ↔ _
  rw [compare_eq_places]
  unfold rank
  cases place first.toModel.unpack with
  | none => exact iff_of_false nofun (by simp)
  | some below =>
    cases place second.toModel.unpack with
    | none => exact iff_of_false nofun (by simp)
    | some above =>
      change (some (compare below above) == some Ordering.eq) = true ↔ _
      rw [beq_iff_eq, Option.some.injEq, compare_eq_iff_eq]
      constructor
      · intro same
        exact ⟨below, rfl, congrArg some same.symm⟩
      · rintro ⟨placed, atFirst, atSecond⟩
        exact Option.some.inj (atFirst.trans atSecond.symm)

theorem beq_zero_iff {value : Float} :
    (value == 0.0) = true ↔ IsZero value.toModel.unpack := by
  have origin : rank 0.0 = some (toLex (0, toLex (0, 0))) := by decide
  rw [beq_iff_ranks, isZero_iff_place, origin]
  constructor
  · rintro ⟨placed, atValue, same⟩
    exact atValue.trans same.symm
  · intro atValue
    exact ⟨_, atValue, rfl⟩

theorem le_of_le_of_beq {first second third : Float} (below : first ≤ second)
    (same : (third == second) = true) : first ≤ third := by
  rcases le_iff_ranks.mp below with ⟨low, high, atFirst, atSecond, lowHigh⟩
  rcases beq_iff_ranks.mp same with ⟨placed, atThird, atSecond'⟩
  rw [Option.some.inj (atSecond.symm.trans atSecond')] at lowHigh
  exact le_iff_ranks.mpr ⟨low, placed, atFirst, atThird, lowHigh⟩

theorem le_of_beq_of_le {first second third : Float} (same : (first == second) = true)
    (below : second ≤ third) : first ≤ third := by
  rcases le_iff_ranks.mp below with ⟨low, high, atSecond, atThird, lowHigh⟩
  rcases beq_iff_ranks.mp same with ⟨placed, atFirst, atSecond'⟩
  rw [Option.some.inj (atSecond.symm.trans atSecond')] at lowHigh
  exact le_iff_ranks.mpr ⟨placed, high, atFirst, atThird, lowHigh⟩

/-! ## Canonical values -/

/-- A mantissa and an exponent within the format. -/
structure Bounded (mantissa : Nat) (exponent : Int) : Prop where
  mantissa : mantissa < 2 ^ 53
  exponent : -1074 ≤ exponent

/-- What unpacking yields: a finite value has a full mantissa or the least exponent. -/
def Canonical : UnpackedFloat → Prop
  | .finite _ mantissa exponent _ =>
    Bounded mantissa exponent ∧ (exponent = -1074 ∨ 2 ^ 52 ≤ mantissa)
  | _ => True

theorem canonical_unpack (bits : BitVec Format.binary64.numBits) :
    Canonical (UnpackedFloat.unpack Format.binary64 bits) := by
  have mantissaSmall : (unpackMantissa bits).toNat < 2 ^ 52 := (unpackMantissa bits).isLt
  unfold UnpackedFloat.unpack
  dsimp only
  split
  · split <;> trivial
  · split
    · rename_i exponentZero
      have least : (unpackExponent bits).toNat = 0 := congrArg BitVec.toNat exponentZero
      split
      · trivial
      · refine ⟨⟨?_, ?_⟩, .inl ?_⟩
        · exact lt_trans mantissaSmall (by decide)
        · rw [least]
          decide
        · rw [least]
          decide
    · rename_i exponentNonzero
      have positive : 0 < (unpackExponent bits).toNat := by
        apply Nat.pos_of_ne_zero
        intro zero
        exact exponentNonzero (BitVec.eq_of_toNat_eq zero)
      have full : (1#1 ++ unpackMantissa bits).toNat = 2 ^ 52 + (unpackMantissa bits).toNat := by
        rw [BitVec.toNat_append, ← Nat.shiftLeft_add_eq_or_of_lt mantissaSmall]
        rfl
      refine ⟨⟨?_, ?_⟩, .inr ?_⟩
      · rw [full]
        omega
      · change -1074 ≤ ((unpackExponent bits).toNat : Int) - ((1023 : Nat) + (52 : Nat))
        omega
      · rw [full]
        exact Nat.le_add_right _ _

/-- A full mantissa leaves no room to write the same magnitude with a smaller exponent. -/
theorem exponent_le_of_shifted_eq {first second : Nat} {exponent other : Int}
    (bounded : Bounded first exponent) (full : other = -1074 ∨ 2 ^ 52 ≤ second)
    (same : first <<< (exponent - min exponent other).toNat =
      second <<< (other - min exponent other).toNat) : other ≤ exponent := by
  by_contra notAbove
  have below : exponent < other := not_le.mp notAbove
  have least := bounded.exponent
  have small := bounded.mantissa
  have large : 2 ^ 52 ≤ second := full.resolve_left (by omega)
  rw [min_eq_left below.le, Int.sub_self, Int.toNat_zero, Nat.shiftLeft_zero,
    Nat.shiftLeft_eq] at same
  have doubled : 2 ^ 1 ≤ 2 ^ (other - exponent).toNat :=
    Nat.pow_le_pow_right (by decide) (by omega)
  have overflow := Nat.mul_le_mul large doubled
  omega

/-- Canonical forms of one magnitude are the same. -/
theorem eq_of_shifted_eq {first second : Nat} {exponent other : Int}
    (firstCanonical : Bounded first exponent ∧ (exponent = -1074 ∨ 2 ^ 52 ≤ first))
    (secondCanonical : Bounded second other ∧ (other = -1074 ∨ 2 ^ 52 ≤ second))
    (same : first <<< (exponent - min exponent other).toNat =
      second <<< (other - min exponent other).toNat) : first = second ∧ exponent = other := by
  have below := exponent_le_of_shifted_eq firstCanonical.1 secondCanonical.2 same
  have above : exponent ≤ other := by
    rw [min_comm] at same
    exact exponent_le_of_shifted_eq secondCanonical.1 firstCanonical.2 same.symm
  have level := le_antisymm above below
  subst level
  rw [min_self, Int.sub_self] at same
  exact ⟨by simpa using same, rfl⟩

/-! ## Rounding keeps what is not zero -/

theorem targetExponent_eq (total : Int) :
    Format.binary64.targetExponent total = max (total - 53) (-1074) := rfl

theorem mantissa_shiftRight (extended : ExtendedMantissa) (count : Nat) :
    (extended >>> count).mantissa = extended.mantissa / 2 ^ count := by
  induction count with
  | zero => exact (Nat.div_one _).symm
  | succ count inductionHypothesis =>
    change (extended >>> count).mantissa / 2 = _
    rw [inductionHypothesis, Nat.div_div_eq_div_mul, Nat.pow_succ]

theorem mantissa_ofMantissaAndAccuracy (mantissa : Nat) (accuracy : Accuracy) :
    (ExtendedMantissa.ofMantissaAndAccuracy mantissa accuracy).mantissa = mantissa := by
  rcases accuracy with - | ⟨⟨⟩⟩ <;> rfl

theorem le_roundedMantissa (extended : ExtendedMantissa) :
    extended.mantissa ≤ extended.roundedMantissa := by
  obtain ⟨mantissa, roundBit, stickyBit⟩ := extended
  cases roundBit <;> cases stickyBit <;>
    simp [ExtendedMantissa.roundedMantissa, ExtendedMantissa.accuracy, Accuracy.roundToNearestEven]

/-- Shifting to the target exponent fits a mantissa into the format, and shifts no
positive mantissa out. -/
theorem shifted_bounds {mantissa : Nat} (positive : 0 < mantissa) {exponent : Int}
    (least : -1074 ≤ exponent) (accuracy : Accuracy) :
    let shifted := shiftToTargetExponent Format.binary64 mantissa exponent accuracy
    0 < shifted.1.mantissa ∧ Bounded shifted.1.mantissa shifted.2 := by
  intro shifted
  have below := Nat.log2_self_le positive.ne'
  have above : mantissa < 2 ^ (mantissa.log2 + 1) := Nat.lt_log2_self
  -- A name for the number of places, so that it is one natural number for `omega`.
  obtain ⟨count, counted⟩ : ∃ count : Nat, count = (Format.binary64.targetExponent
      (totalExponent mantissa exponent) - exponent).toNat := ⟨_, rfl⟩
  have mantissaShifted : shifted.1.mantissa = mantissa / 2 ^ count := by
    rw [counted]
    exact (mantissa_shiftRight _ _).trans (by rw [mantissa_ofMantissaAndAccuracy])
  have exponentShifted : shifted.2 = exponent + count := by
    rw [counted]
    rfl
  rw [targetExponent_eq, totalExponent] at counted
  have notAll : count ≤ mantissa.log2 := by omega
  have enough : mantissa.log2 + 1 ≤ count + 53 := by omega
  rw [mantissaShifted, exponentShifted]
  refine ⟨Nat.div_pos ?_ (Nat.two_pow_pos count), ?_, by omega⟩
  · exact (Nat.pow_le_pow_right (by decide) notAll).trans below
  · apply Nat.div_lt_of_lt_mul
    rw [← Nat.pow_add]
    exact above.trans_le (Nat.pow_le_pow_right (by decide) enough)

theorem exists_roundWithAccuracy (sign : Sign) {mantissa : Nat} (positive : 0 < mantissa)
    {exponent : Int} (least : -1074 ≤ exponent) (accuracy : Accuracy) :
    ∃ rounded level kept, roundWithAccuracy Format.binary64 sign mantissa exponent accuracy =
      .finite sign rounded level kept ∧ Bounded rounded level := by
  have first := shifted_bounds positive least accuracy
  have roundedPositive := first.1.trans_le (le_roundedMantissa _)
  have second := shifted_bounds roundedPositive first.2.exponent .exact
  refine ⟨_, _, second.1, ?_, second.2⟩
  unfold roundWithAccuracy
  exact dif_neg second.1.ne'

/-- A positive mantissa above the least exponent rounds to a positive one. -/
theorem exists_round (sign : Sign) {mantissa : Nat} (positive : 0 < mantissa) {exponent : Int}
    (least : -1074 ≤ exponent) :
    ∃ rounded level kept, UnpackedFloat.round Format.binary64 sign mantissa exponent =
      .finite sign rounded level kept ∧ Bounded rounded level := by
  unfold UnpackedFloat.round decreaseExponent
  refine exists_roundWithAccuracy sign ?_ ?_ .exact
  · rw [Nat.shiftLeft_eq]
    exact Nat.mul_pos positive (Nat.two_pow_pos _)
  · rw [targetExponent_eq]
    omega

/-! ## Packing keeps what is not zero -/

theorem fields_of_isZero {bits : BitVec Format.binary64.numBits}
    (zero : IsZero (UnpackedFloat.unpack Format.binary64 bits)) :
    unpackExponent bits = 0#_ ∧ unpackMantissa bits = 0#_ := by
  unfold UnpackedFloat.unpack at zero
  dsimp only at zero
  split at zero
  · split at zero <;> cases zero
  · split at zero
    · rename_i exponentZero
      split at zero
      · rename_i mantissaZero
        exact ⟨exponentZero, mantissaZero⟩
      · cases zero
    · cases zero

/-- A value within the format is packed with an exponent or a mantissa. -/
theorem not_isZero_pack {sign : Sign} {mantissa : Nat} {exponent : Int} (kept : 0 < mantissa)
    (bounded : Bounded mantissa exponent) :
    ¬ IsZero (Float.Model.pack (.finite sign mantissa exponent kept)).unpack := by
  intro zero
  have least := bounded.exponent
  have fields := @fields_of_isZero
    (UnpackedFloat.pack Format.binary64 (.finite sign mantissa exponent kept)) zero
  unfold UnpackedFloat.pack at fields
  dsimp only at fields
  split at fields
  · rw [packedInfinity, unpackExponent_packComponents] at fields
    exact absurd fields.1 (by decide)
  · rename_i finite
    split at fields
    · rw [unpackExponent_packComponents] at fields
      have exponentZero : (exponent + (1023 : Nat) + (52 : Nat)).toNat % 2 ^ 11 = 0 :=
        congrArg BitVec.toNat fields.1
      have small : ¬ 2 ^ 11 ≤ (exponent + (1023 : Nat) + (52 : Nat)).toNat + 1 := finite
      omega
    · rename_i subnormal
      rw [unpackMantissa_packComponents] at fields
      have mantissaZero : mantissa % 2 ^ 52 = 0 := congrArg BitVec.toNat fields.2
      have notFull : mantissa.log2 + 1 ≠ 53 := subnormal
      have log := (Nat.log2_lt kept.ne').mpr bounded.mantissa
      have small : mantissa < 2 ^ 52 := (Nat.log2_lt kept.ne').mp (by omega)
      rw [Nat.mod_eq_of_lt small] at mantissaZero
      exact kept.ne' mantissaZero

/-! ## Differences -/

theorem apply_inj {first second : Sign} {mantissa other : Nat} (positive : 0 < mantissa)
    (otherPositive : 0 < other)
    (same : first.apply (mantissa : Int) = second.apply (other : Int)) :
    first = second ∧ mantissa = other := by
  cases first <;> cases second <;> simp only [Sign.apply] at same
  · exact ⟨rfl, by omega⟩
  · omega
  · omega
  · exact ⟨rfl, by omega⟩

/-- What is rounded to zero was zero. -/
theorem eq_zero_of_isZero_normalize {mantissa exponent : Int} (least : -1074 ≤ exponent)
    (zero : IsZero (Float.Model.pack
      (UnpackedFloat.normalize Format.binary64 mantissa exponent .positive)).unpack) :
    mantissa = 0 := by
  have rounded (sign : Sign) (magnitude : Nat) (positive : 0 < magnitude) : ¬ IsZero
      (Float.Model.pack (UnpackedFloat.round Format.binary64 sign magnitude exponent)).unpack := by
    rcases exists_round sign positive least with ⟨_, _, kept, same, bounded⟩
    rw [same]
    exact not_isZero_pack kept bounded
  unfold UnpackedFloat.normalize at zero
  rcases lt_trichotomy mantissa 0 with below | level | above
  · rw [compare_lt_iff_lt.mpr below] at zero
    exact absurd zero (rounded .negative _ (by omega))
  · exact level
  · rw [compare_gt_iff_gt.mpr above] at zero
    exact absurd zero (rounded .positive _ (by omega))

/-- A difference of canonical values is packed to zero only if they have one place. -/
theorem place_eq_of_isZero_sub {first second : UnpackedFloat} (firstCanonical : Canonical first)
    (secondCanonical : Canonical second)
    (zero : IsZero (Float.Model.pack (sub Format.binary64 first second)).unpack) :
    ∃ placed, place first = some placed ∧ place second = some placed := by
  have notInfinity (sign : Sign) : ¬ IsZero (Float.Model.pack (.infinity sign)).unpack := by
    cases sign <;> exact fun zero => absurd (fields_of_isZero zero).1 (by decide)
  have notNaN : ¬ IsZero (Float.Model.pack .notANumber).unpack :=
    fun zero => absurd (fields_of_isZero zero).1 (by decide)
  cases first with
  | notANumber => exact absurd zero notNaN
  | infinity sign =>
    cases second with
    | notANumber => exact absurd zero notNaN
    | infinity other =>
      unfold UnpackedFloat.sub at zero
      dsimp only at zero
      split at zero
      · exact absurd zero (notInfinity sign)
      · exact absurd zero notNaN
    | zero _ => exact absurd zero (notInfinity sign)
    | finite => exact absurd zero (notInfinity sign)
  | zero sign =>
    cases second with
    | notANumber => exact absurd zero notNaN
    | infinity other => exact absurd zero (notInfinity (-other))
    | zero other => exact ⟨_, rfl, rfl⟩
    | finite other mantissa exponent positive =>
      exact absurd zero (not_isZero_pack positive secondCanonical.1)
  | finite sign mantissa exponent positive =>
    cases second with
    | notANumber => exact absurd zero notNaN
    | infinity other => exact absurd zero (notInfinity (-other))
    | zero other => exact absurd zero (not_isZero_pack positive firstCanonical.1)
    | finite other otherMantissa otherExponent otherPositive =>
      have least : -1074 ≤ min exponent otherExponent :=
        le_min firstCanonical.1.exponent secondCanonical.1.exponent
      have difference := eq_zero_of_isZero_normalize least zero
      have shifted (magnitude count : Nat) (positive : 0 < magnitude) :
          0 < magnitude <<< count := by
        rw [Nat.shiftLeft_eq]
        exact Nat.mul_pos positive (Nat.two_pow_pos count)
      rcases apply_inj (shifted _ _ positive) (shifted _ _ otherPositive)
        (Int.sub_eq_zero.mp difference) with ⟨rfl, magnitudes⟩
      rcases eq_of_shifted_eq firstCanonical secondCanonical magnitudes with ⟨rfl, rfl⟩
      cases sign <;> exact ⟨_, rfl, rfl⟩

/-- Operands whose difference is zero are equal. -/
theorem beq_of_sub_beq_zero {first second : Float} (still : (first - second == 0.0) = true) :
    (first == second) = true := by
  have zero := beq_zero_iff.mp still
  exact beq_iff_ranks.mpr
    (place_eq_of_isZero_sub (canonical_unpack _) (canonical_unpack _) zero)

/-- The difference of two zeros is zero. -/
theorem sub_beq_zero {first second : Float} (firstZero : (first == 0.0) = true)
    (secondZero : (second == 0.0) = true) : (first - second == 0.0) = true := by
  rw [beq_zero_iff] at firstZero secondZero ⊢
  change IsZero (Float.Model.pack
    (sub Format.binary64 first.toModel.unpack second.toModel.unpack)).unpack
  cases atFirst : first.toModel.unpack with
  | zero sign =>
    cases atSecond : second.toModel.unpack with
    | zero other => cases sign <;> cases other <;> exact True.intro
    | _ =>
      rw [atSecond] at secondZero
      cases secondZero
  | _ =>
    rw [atFirst] at firstZero
    cases firstZero

end BeltGantry.Binary64

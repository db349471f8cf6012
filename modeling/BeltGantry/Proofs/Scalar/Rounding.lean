import BeltGantry.Proofs.Scalar.Ticks
namespace BeltGantry.Binary64

open Float.Model UnpackedFloat

/-!
# Rounding of binary64

Rounding takes an exact result to a neighbour on the grid: what lies on the grid below
the exact result lies below the rounded one as well, and likewise above.  Nothing else is
said of rounding (`Rounds`), and an exact result on the grid follows to be kept.

A mantissa is cut down to as many places as fit, which is the whole argument where the
grid is as fine as the places that are kept.  A count of ticks from a finer part of the
grid lies on the other side of a full mantissa.
-/

/-! ## Mantissas cut to fewer places -/

/-- A mantissa without its last places, rounded to the nearest and to the even one of two
nearest. -/
def cutMantissa (mantissa places : Nat) : Nat :=
  (ExtendedMantissa.ofMantissaAndAccuracy mantissa .exact >>> places).roundedMantissa

theorem shiftRight_multiple (kept places : Nat) :
    ExtendedMantissa.ofMantissaAndAccuracy (kept * 2 ^ places) .exact >>> places =
      ⟨kept, false, false⟩ := by
  induction places generalizing kept with
  | zero =>
    rw [Nat.pow_zero, Nat.mul_one]
    rfl
  | succ places inductionHypothesis =>
    have regrouped : kept * 2 ^ (places + 1) = 2 * kept * 2 ^ places := by ring
    change (ExtendedMantissa.ofMantissaAndAccuracy (kept * 2 ^ (places + 1)) .exact >>>
      places).shiftRightOne = _
    rw [regrouped, inductionHypothesis]
    simp [ExtendedMantissa.shiftRightOne]

theorem cutMantissa_multiple (kept places : Nat) :
    cutMantissa (kept * 2 ^ places) places = kept := by
  rw [cutMantissa, shiftRight_multiple]
  rfl

theorem roundedMantissa_le (extended : ExtendedMantissa) :
    extended.roundedMantissa ≤ extended.mantissa + 1 := by
  obtain ⟨mantissa, roundBit, stickyBit⟩ := extended
  cases roundBit <;> cases stickyBit <;>
    simp [ExtendedMantissa.roundedMantissa, ExtendedMantissa.accuracy, Accuracy.roundToNearestEven]
  omega

theorem mantissa_cut (mantissa places : Nat) :
    (ExtendedMantissa.ofMantissaAndAccuracy mantissa .exact >>> places).mantissa =
      mantissa / 2 ^ places := by
  rw [mantissa_shiftRight, mantissa_ofMantissaAndAccuracy]

theorem le_cutMantissa {kept mantissa places : Nat} (within : kept * 2 ^ places ≤ mantissa) :
    kept ≤ cutMantissa mantissa places := by
  have whole : kept ≤ mantissa / 2 ^ places :=
    (Nat.le_div_iff_mul_le (Nat.two_pow_pos places)).mpr within
  rw [← mantissa_cut] at whole
  exact whole.trans (le_roundedMantissa _)

theorem cutMantissa_le {kept mantissa places : Nat} (within : mantissa ≤ kept * 2 ^ places) :
    cutMantissa mantissa places ≤ kept := by
  rcases within.eq_or_lt with rfl | below
  · exact (cutMantissa_multiple kept places).le
  · have whole : mantissa / 2 ^ places < kept :=
      (Nat.div_lt_iff_lt_mul (Nat.two_pow_pos places)).mpr below
    rw [← mantissa_cut] at whole
    exact (roundedMantissa_le _).trans whole

/-! ## Rounding a magnitude -/

/-- Exponent to which a magnitude is rounded. -/
def level (mantissa : Nat) (exponent : Int) : Int :=
  Format.binary64.targetExponent (totalExponent mantissa exponent)

/-- Places of a mantissa that rounding cuts. -/
def cutPlaces (mantissa : Nat) (exponent : Int) : Nat := (level mantissa exponent - exponent).toNat

/-- Ticks of a magnitude after rounding, as far as they are finite. -/
def roundedTicks (mantissa : Nat) (exponent : Int) : Nat :=
  cutMantissa mantissa (cutPlaces mantissa exponent) * 2 ^ (level mantissa exponent + 1074).toNat

theorem level_eq (mantissa : Nat) (exponent : Int) :
    level mantissa exponent = max (mantissa.log2 + 1 + exponent - 53) (-1074) := rfl

theorem shiftToTargetExponent_eq (mantissa : Nat) (exponent : Int) :
    shiftToTargetExponent Format.binary64 mantissa exponent .exact =
      (ExtendedMantissa.ofMantissaAndAccuracy mantissa .exact >>> cutPlaces mantissa exponent,
        exponent + cutPlaces mantissa exponent) := rfl

/-- A mantissa that was rounded up to the next place is shifted once more, and keeps its
magnitude. -/
theorem shiftToTargetExponent_of_le {mantissa : Nat} {exponent : Int}
    (fits : mantissa ≤ 2 ^ 53) (least : -1074 ≤ exponent) :
    let shifted := shiftToTargetExponent Format.binary64 mantissa exponent .exact
    Bounded shifted.1.mantissa shifted.2 ∧
      (exponent = -1074 ∨ 2 ^ 52 ≤ mantissa → shifted.2 = -1074 ∨ 2 ^ 52 ≤ shifted.1.mantissa) ∧
      span shifted.1.mantissa shifted.2 = span mantissa exponent := by
  rw [shiftToTargetExponent_eq]
  dsimp only
  rw [mantissa_cut]
  rcases fits.eq_or_lt with rfl | small
  · have once : cutPlaces (2 ^ 53) exponent = 1 := by
      rw [cutPlaces, level_eq, Nat.log2_two_pow]
      omega
    have further : (exponent + 1 + 1074).toNat = (exponent + 1074).toNat + 1 := by omega
    rw [once]
    refine ⟨⟨by decide, by omega⟩, fun _ => .inr (by decide), ?_⟩
    change 2 ^ 52 * 2 ^ (exponent + 1 + 1074).toNat = 2 ^ 53 * 2 ^ (exponent + 1074).toNat
    rw [further, Nat.pow_succ]
    ring
  · have log : mantissa.log2 < 53 := by
      rcases mantissa.eq_zero_or_pos with rfl | positive
      · decide
      · exact (Nat.log2_lt positive.ne').mpr small
    have never : cutPlaces mantissa exponent = 0 := by
      rw [cutPlaces, level_eq]
      omega
    rw [never, Nat.pow_zero, Nat.div_one, Nat.cast_zero, Int.add_zero]
    exact ⟨⟨small, least⟩, id, rfl⟩

theorem cutMantissa_le_full (mantissa : Nat) (exponent : Int) :
    cutMantissa mantissa (cutPlaces mantissa exponent) ≤ 2 ^ 53 := by
  apply cutMantissa_le
  rw [← Nat.pow_add]
  have above : mantissa < 2 ^ (mantissa.log2 + 1) := Nat.lt_log2_self
  refine above.le.trans (Nat.pow_le_pow_right (by decide) ?_)
  rw [cutPlaces, level_eq]
  omega

/-- Above the least exponent nothing is cut that would leave a mantissa short. -/
theorem full_of_level {mantissa : Nat} (positive : 0 < mantissa) {exponent : Int}
    (placed : exponent ≤ level mantissa exponent) :
    level mantissa exponent = -1074 ∨ 2 ^ 52 * 2 ^ cutPlaces mantissa exponent ≤ mantissa := by
  rw [← Nat.pow_add, cutPlaces]
  rw [level_eq] at placed ⊢
  by_cases lowest : (mantissa.log2 + 1 + exponent - 53 : Int) ≤ -1074
  · exact .inl (max_eq_right lowest)
  · right
    refine (Nat.pow_le_pow_right (by decide) ?_).trans (Nat.log2_self_le positive.ne')
    omega

theorem roundWithAccuracy_eq (sign : Sign) {mantissa : Nat} {exponent : Int}
    (placed : exponent ≤ level mantissa exponent) :
    roundWithAccuracy Format.binary64 sign mantissa exponent .exact =
      let shifted := shiftToTargetExponent Format.binary64
        (cutMantissa mantissa (cutPlaces mantissa exponent)) (level mantissa exponent) .exact
      if empty : shifted.1.mantissa = 0 then .zero sign
      else .finite sign shifted.1.mantissa shifted.2 (Nat.pos_of_ne_zero empty) := by
  have lifted : exponent + cutPlaces mantissa exponent = level mantissa exponent := by
    rw [cutPlaces]
    omega
  unfold roundWithAccuracy
  rw [shiftToTargetExponent_eq mantissa exponent, lifted]
  rfl

/-- Ticks of a rounded and packed magnitude. -/
theorem tally_roundWithAccuracy (sign : Sign) {mantissa : Nat} (positive : 0 < mantissa)
    {exponent : Int} (placed : exponent ≤ level mantissa exponent) :
    tally (Float.Model.pack
        (roundWithAccuracy Format.binary64 sign mantissa exponent .exact)).unpack =
      sign.apply (min (roundedTicks mantissa exponent) infinityTicks : Nat) := by
  have least : -1074 ≤ level mantissa exponent := by
    rw [level_eq]
    exact le_max_right _ _
  rcases shiftToTargetExponent_of_le (cutMantissa_le_full mantissa exponent) least with
    ⟨bounded, filled, same⟩
  have full := filled ((full_of_level positive placed).imp_right le_cutMantissa)
  rw [roundWithAccuracy_eq sign placed]
  dsimp only
  split
  · rename_i empty
    rw [empty, span, Nat.zero_mul] at same
    have none : roundedTicks mantissa exponent = 0 := same.symm
    rw [unpack_pack_zero, none, Nat.zero_min]
    cases sign <;> rfl
  · rw [tally_unpack_pack _ bounded full, same]
    rfl

/-- A short mantissa below a level is at most the least full one at the level. -/
theorem fine_le {short height places : Nat} (small : short ≤ 2 ^ 53) (fine : height < places) :
    short * 2 ^ height ≤ 2 ^ 52 * 2 ^ places := by
  calc short * 2 ^ height
      ≤ 2 ^ 53 * 2 ^ height := Nat.mul_le_mul_right _ small
    _ = 2 ^ 52 * 2 ^ (height + 1) := by ring
    _ ≤ 2 ^ 52 * 2 ^ places := Nat.mul_le_mul_left _ (Nat.pow_le_pow_right (by decide) fine)

section

variable {mantissa : Nat} (positive : 0 < mantissa) {exponent : Int}
  (placed : exponent ≤ level mantissa exponent) {scale places : Nat}
  (scaled : (places : Int) = exponent + 1074 + scale)

include placed scaled

/-- A power of two moved from the magnitude to its rounded ticks. -/
theorem shifted_level (kept : Nat) :
    kept * 2 ^ cutPlaces mantissa exponent * 2 ^ places =
      kept * 2 ^ (level mantissa exponent + 1074).toNat * 2 ^ scale := by
  have total : cutPlaces mantissa exponent + places =
      (level mantissa exponent + 1074).toNat + scale := by
    rw [cutPlaces]
    rw [level_eq] at placed ⊢
    omega
  rw [Nat.mul_assoc, ← Nat.pow_add, total, Nat.pow_add, ← Nat.mul_assoc]

include positive

/-- What lies on the grid at or below a magnitude lies at or below its rounded ticks. -/
theorem le_roundedTicks {count : Nat} (onGrid : OnGrid count)
    (within : count * 2 ^ scale ≤ mantissa * 2 ^ places) :
    count ≤ roundedTicks mantissa exponent := by
  obtain ⟨-, short, height, small, rfl⟩ := onGrid
  by_cases fine : height < (level mantissa exponent + 1074).toNat
  · have full := (full_of_level positive placed).resolve_left (by omega)
    calc short * 2 ^ height
        ≤ 2 ^ 52 * 2 ^ (level mantissa exponent + 1074).toNat := fine_le small fine
      _ ≤ roundedTicks mantissa exponent := Nat.mul_le_mul_right _ (le_cutMantissa full)
  · obtain ⟨rest, rfl⟩ := Nat.exists_eq_add_of_le (not_lt.mp fine)
    have regrouped : short * 2 ^ ((level mantissa exponent + 1074).toNat + rest) =
        short * 2 ^ rest * 2 ^ (level mantissa exponent + 1074).toNat := by ring
    rw [regrouped] at within ⊢
    rw [← shifted_level placed scaled] at within
    exact Nat.mul_le_mul_right _
      (le_cutMantissa (Nat.le_of_mul_le_mul_right within (Nat.two_pow_pos places)))

/-- What lies on the grid at or above a magnitude lies at or above its rounded ticks. -/
theorem roundedTicks_le {count : Nat} (onGrid : OnGrid count)
    (within : mantissa * 2 ^ places ≤ count * 2 ^ scale) :
    roundedTicks mantissa exponent ≤ count := by
  obtain ⟨-, short, height, small, rfl⟩ := onGrid
  by_cases fine : height < (level mantissa exponent + 1074).toNat
  · have full := (full_of_level positive placed).resolve_left (by omega)
    -- The magnitude is the least one of its exponent, and the count is the same.
    have least : 2 ^ 52 * 2 ^ (level mantissa exponent + 1074).toNat ≤ short * 2 ^ height := by
      apply Nat.le_of_mul_le_mul_right _ (Nat.two_pow_pos scale)
      rw [← shifted_level placed scaled]
      exact (Nat.mul_le_mul_right _ full).trans within
    have bounded : mantissa ≤ 2 ^ 52 * 2 ^ cutPlaces mantissa exponent := by
      apply Nat.le_of_mul_le_mul_right _ (Nat.two_pow_pos places)
      rw [shifted_level placed scaled]
      exact within.trans (Nat.mul_le_mul_right _ (fine_le small fine))
    exact (Nat.mul_le_mul_right _ (cutMantissa_le bounded)).trans least
  · obtain ⟨rest, rfl⟩ := Nat.exists_eq_add_of_le (not_lt.mp fine)
    have regrouped : short * 2 ^ ((level mantissa exponent + 1074).toNat + rest) =
        short * 2 ^ rest * 2 ^ (level mantissa exponent + 1074).toNat := by ring
    rw [regrouped] at within ⊢
    rw [← shifted_level placed scaled] at within
    exact Nat.mul_le_mul_right _
      (cutMantissa_le (Nat.le_of_mul_le_mul_right within (Nat.two_pow_pos places)))

end

/-- A rounded result in its relation to the exact one, which is counted in parts of a tick:
what lies on the grid on one side of the exact result lies on the same side of the rounded
one. -/
structure Rounds (scale : Nat) (exact rounded : Int) : Prop where
  le_rounded : ∀ value : Int, OnGrid value.natAbs → value * 2 ^ scale ≤ exact → value ≤ rounded
  rounded_le : ∀ value : Int, OnGrid value.natAbs → exact ≤ value * 2 ^ scale → rounded ≤ value

namespace Rounds

variable {scale : Nat} {exact rounded : Int}

/-- An exact result on the grid is kept. -/
theorem eq_of_onGrid (rounds : Rounds scale exact rounded) {value : Int}
    (onGrid : OnGrid value.natAbs) (same : exact = value * 2 ^ scale) : rounded = value :=
  le_antisymm (rounds.rounded_le value onGrid same.le) (rounds.le_rounded value onGrid same.ge)

theorem of_eq (same : exact = rounded * 2 ^ scale) : Rounds scale exact rounded := by
  have positive : (0 : Int) < 2 ^ scale := Int.pow_pos (by decide)
  rw [same]
  exact ⟨fun value _ below => le_of_mul_le_mul_right below positive,
    fun value _ above => le_of_mul_le_mul_right above positive⟩

theorem neg (rounds : Rounds scale exact rounded) : Rounds scale (-exact) (-rounded) := by
  refine ⟨fun value onGrid below => ?_, fun value onGrid above => ?_⟩
  · rw [← Int.natAbs_neg] at onGrid
    have mirrored := rounds.rounded_le (-value) onGrid (by rw [neg_mul]; omega)
    omega
  · rw [← Int.natAbs_neg] at onGrid
    have mirrored := rounds.le_rounded (-value) onGrid (by rw [neg_mul]; omega)
    omega

theorem apply (rounds : Rounds scale exact rounded) (sign : Sign) :
    Rounds scale (sign.apply exact) (sign.apply rounded) := by
  cases sign with
  | negative => exact rounds.neg
  | positive => exact rounds

/-- What lies on the other side of zero decides nothing. -/
theorem of_magnitudes {magnitude result : Nat} (positive : 0 < magnitude)
    (low : ∀ count, OnGrid count → count * 2 ^ scale ≤ magnitude → count ≤ result)
    (high : ∀ count, OnGrid count → magnitude ≤ count * 2 ^ scale → result ≤ count) :
    Rounds scale magnitude result := by
  constructor
  · intro value onGrid below
    obtain ⟨count, rfl | rfl⟩ := value.eq_nat_or_neg
    · exact_mod_cast low count onGrid (by exact_mod_cast below)
    · omega
  · intro value onGrid above
    obtain ⟨count, rfl | rfl⟩ := value.eq_nat_or_neg
    · exact_mod_cast high count onGrid (by exact_mod_cast above)
    · have nonnegative : (0 : Int) ≤ count * 2 ^ scale := by positivity
      rw [neg_mul] at above
      omega

end Rounds

/-! ## Rounded magnitudes -/

/-- Rounding and packing a magnitude. -/
theorem rounds_roundWithAccuracy (sign : Sign) {mantissa : Nat} (positive : 0 < mantissa)
    {exponent : Int} (placed : exponent ≤ level mantissa exponent) {scale places : Nat}
    (scaled : (places : Int) = exponent + 1074 + scale) :
    Rounds scale (sign.apply (mantissa * 2 ^ places : Nat)) (tally (Float.Model.pack
      (roundWithAccuracy Format.binary64 sign mantissa exponent .exact)).unpack) := by
  rw [tally_roundWithAccuracy sign positive placed]
  apply Rounds.apply
  apply Rounds.of_magnitudes (Nat.mul_pos positive (Nat.two_pow_pos places))
  · intro count onGrid below
    exact le_min (le_roundedTicks positive placed scaled onGrid below) onGrid.1
  · intro count onGrid above
    exact (min_le_left _ _).trans (roundedTicks_le positive placed scaled onGrid above)

theorem log2_shiftLeft {mantissa : Nat} (positive : 0 < mantissa) (shift : Nat) :
    (mantissa <<< shift).log2 = mantissa.log2 + shift := by
  have below := Nat.log2_self_le positive.ne'
  have above : mantissa < 2 ^ (mantissa.log2 + 1) := Nat.lt_log2_self
  rw [Nat.shiftLeft_eq, Nat.log2_eq_iff (Nat.mul_pos positive (Nat.two_pow_pos shift)).ne']
  constructor
  · rw [Nat.pow_add]
    exact Nat.mul_le_mul_right _ below
  · rw [Nat.add_right_comm, Nat.pow_add]
    exact (Nat.mul_lt_mul_right (Nat.two_pow_pos shift)).mpr above

/-- Bringing the exponent down to its level first changes nothing. -/
theorem rounds_round (sign : Sign) {mantissa : Nat} (positive : 0 < mantissa) {exponent : Int}
    (least : -1074 ≤ exponent) :
    Rounds 0 (sign.apply (span mantissa exponent)) (tally
      (Float.Model.pack (UnpackedFloat.round Format.binary64 sign mantissa exponent)).unpack) := by
  obtain ⟨shift, atShift⟩ : ∃ shift : Nat,
      shift = (exponent - level mantissa exponent).toNat := ⟨_, rfl⟩
  have lowered : UnpackedFloat.round Format.binary64 sign mantissa exponent =
      roundWithAccuracy Format.binary64 sign (mantissa <<< shift) (exponent - shift) .exact := by
    rw [atShift]
    rfl
  have sameLevel : level (mantissa <<< shift) (exponent - shift) = level mantissa exponent := by
    rw [level_eq, level_eq, log2_shiftLeft positive]
    omega
  have floor : -1074 ≤ level mantissa exponent := by
    rw [level_eq]
    exact le_max_right _ _
  have placed : exponent - shift ≤ level (mantissa <<< shift) (exponent - shift) := by
    rw [sameLevel]
    omega
  have places : (exponent + 1074).toNat = shift + (exponent - shift + 1074).toNat := by omega
  have same : span mantissa exponent =
      mantissa <<< shift * 2 ^ (exponent - shift + 1074).toNat := by
    rw [span, places, Nat.pow_add, Nat.shiftLeft_eq, Nat.mul_assoc]
  rw [lowered, same]
  apply rounds_roundWithAccuracy sign _ placed
  · omega
  · rw [Nat.shiftLeft_eq]
    exact Nat.mul_pos positive (Nat.two_pow_pos shift)

theorem rounds_normalize {mantissa exponent : Int} (least : -1074 ≤ exponent) (zeroSign : Sign) :
    Rounds 0 (mantissa * 2 ^ (exponent + 1074).toNat) (tally (Float.Model.pack
      (UnpackedFloat.normalize Format.binary64 mantissa exponent zeroSign)).unpack) := by
  unfold UnpackedFloat.normalize
  rcases lt_trichotomy mantissa 0 with below | rfl | above
  · obtain ⟨magnitude, rfl⟩ : ∃ magnitude : Nat, mantissa = -magnitude :=
      ⟨mantissa.natAbs, by omega⟩
    have same : (-(-(magnitude : Int))).toNat = magnitude := by omega
    rw [compare_lt_iff_lt.mpr below, neg_mul]
    dsimp only
    rw [same]
    exact_mod_cast rounds_round .negative (by omega) least
  · rw [Std.compare_self, zero_mul]
    dsimp only
    rw [unpack_pack_zero]
    exact Rounds.of_eq rfl
  · obtain ⟨magnitude, rfl⟩ : ∃ magnitude : Nat, mantissa = magnitude :=
      ⟨mantissa.natAbs, by omega⟩
    rw [compare_gt_iff_gt.mpr above]
    exact_mod_cast rounds_round .positive (by omega) least

end BeltGantry.Binary64

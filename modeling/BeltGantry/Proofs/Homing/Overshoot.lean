import BeltGantry.Proofs.Scalar.Arithmetic
namespace BeltGantry.Binary64

open Float.Model UnpackedFloat

/-!
# One and a half gaps

The staging point of a rail lies one and a half times a gap away from the endstop.  The
gap, its multiple and the staging point are each rounded, and still the staging point never
falls short of the other side of the gap.  The gap lies between neighbours on a coarse
grid, of which the larger is at most one and a half times the smaller.  So the rounded gap
is no less than the smaller, its multiple no less than the larger, and the multiple no
less than the gap was before it was rounded.

Overflow does no harm: a multiple that is infinite covers every gap.  Without a gap there
is nothing to cover, and NaN or an infinite value at the near side leads nowhere.
-/

/-! ## The multiple of a gap -/

/-- Between two neighbours on a coarse grid whose ratio is at most one and a half. -/
theorem exists_onGrid_around {distance : Nat} (positive : 0 < distance)
    (finite : distance < infinityTicks) :
    ∃ low high, OnGrid low ∧ OnGrid high ∧ low ≤ distance ∧ distance ≤ high ∧
      2 * high ≤ 3 * low := by
  rcases Nat.lt_or_ge distance 2 with single | several
  · have one : distance = 1 := by omega
    exact ⟨1, 1, onGrid_one, onGrid_one, one.ge, one.le, by decide⟩
  · obtain ⟨places, log⟩ : ∃ places, distance.log2 = places + 1 :=
      Nat.exists_eq_add_of_le' ((Nat.le_log2 positive.ne').mpr several)
    have below := Nat.log2_self_le positive.ne'
    have above : distance < 2 ^ (distance.log2 + 1) := Nat.lt_log2_self
    rw [log] at below above
    have room : places + 2 ≤ finitePlaces := by
      have reached := (Nat.log2_lt positive.ne').mpr finite
      omega
    have bounded (count : Nat) (small : count ≤ 4) : OnGrid (count * 2 ^ places) := by
      refine ⟨?_, count, places, by omega, rfl⟩
      calc count * 2 ^ places
          ≤ 2 ^ 2 * 2 ^ places := Nat.mul_le_mul_right _ small
        _ = 2 ^ (2 + places) := (Nat.pow_add 2 2 places).symm
        _ ≤ infinityTicks := Nat.pow_le_pow_right (by decide) (by omega)
    have pow : 2 ^ (places + 1) = 2 * 2 ^ places := by ring
    have next : 2 ^ (places + 1 + 1) = 4 * 2 ^ places := by ring
    rw [pow] at below
    rw [next] at above
    rcases Nat.lt_or_ge distance (3 * 2 ^ places) with lower | upper
    · exact ⟨2 * 2 ^ places, 3 * 2 ^ places, bounded 2 (by decide), bounded 3 (by decide), below,
        lower.le, by omega⟩
    · exact ⟨3 * 2 ^ places, 4 * 2 ^ places, bounded 3 (by decide), bounded 4 (by decide), upper,
        above.le, by omega⟩

theorem unpack_threeHalves :
    (1.5 : Float).toModel.unpack = .finite .positive (3 * 2 ^ 51) (-52) (by decide) := rfl

/-- Half of a product with three halves, in ticks. -/
theorem two_mul_ticks_threeHalves : 2 * ticks 1.5 = 3 * 2 ^ 1074 := by
  obtain ⟨places, atPlaces⟩ : ∃ places : Nat, places = 1022 := ⟨_, rfl⟩
  have shift : ((-52 : Int) + 1074).toNat = places := atPlaces.symm
  have total : 1074 = 52 + places := by omega
  unfold ticks
  rw [unpack_threeHalves, tally, span, shift, total, pow_add]
  change 2 * ((3 * 2 ^ 51 * 2 ^ places : Nat) : Int) = _
  push_cast
  ring

theorem mul_infinity {gap : Float} (infinite : gap.toModel.unpack = .infinity .positive) :
    (1.5 * gap).toModel.unpack = .infinity .positive := by
  rw [unpack_mul, infinite]
  rfl

/-- A value covers a distance: it is finite and at least as large, or infinite. -/
def Covers (reach : Float) (distance : Int) : Prop :=
  reach.toModel.unpack = .infinity .positive ∨
    reach.isFinite = true ∧ distance ≤ ticks reach

theorem isFinite_threeHalves : (1.5 : Float).isFinite = true := rfl

/-- A multiple reaches a count on the grid that is at most one and a half times a count
which the gap reaches. -/
theorem le_ticks_stretched {gap : Float} (finite : gap.isFinite = true) {low high : Nat}
    (onGrid : OnGrid high) (ratio : 2 * high ≤ 3 * low) (reaches : low ≤ ticks gap) :
    high ≤ ticks (1.5 * gap) := by
  apply (rounds_mul isFinite_threeHalves finite).2.le_rounded high onGrid
  have scaled := two_mul_ticks_threeHalves
  have unitPositive : (0 : Int) < 2 ^ 1074 := Int.pow_pos (by decide)
  generalize (2 : Int) ^ 1074 = unit at scaled unitPositive ⊢
  have doubled : 2 * high * unit ≤ 3 * ticks gap * unit :=
    mul_le_mul_of_nonneg_right (by omega) unitPositive.le
  have regrouped : 2 * (ticks 1.5 * ticks gap) = 3 * ticks gap * unit := by
    rw [← mul_assoc, scaled]
    ring
  rw [mul_assoc] at doubled
  omega

/-- What is rounded to a finite value is smaller than an infinity. -/
theorem lt_infinityTicks_of_rounds {gap : Float} (finite : gap.isFinite = true) {distance : Nat}
    (rounds : Rounds 0 distance (ticks gap)) : distance < infinityTicks := by
  have bounded := natAbs_ticks_lt finite
  by_contra! beyond
  have reached := rounds.le_rounded infinityTicks onGrid_infinityTicks (by simpa using beyond)
  omega

/-- One and a half times a gap covers what the gap was before it was rounded. -/
theorem covers_stretched {gap : Float} {distance : Int} (numeric : gap.isNaN = false)
    (rounds : Rounds 0 distance (ticks gap)) (positive : 0 < distance) :
    Covers (1.5 * gap) distance := by
  obtain ⟨count, rfl⟩ : ∃ count : Nat, distance = count := ⟨distance.toNat, by omega⟩
  have gapPositive : 1 ≤ ticks gap := rounds.le_rounded 1 onGrid_one (by omega)
  rcases isFinite_or_infinity numeric (by omega) with finite | infinite
  · have inRange := lt_infinityTicks_of_rounds finite rounds
    rcases exists_onGrid_around (by omega) inRange with
      ⟨low, high, lowOnGrid, highOnGrid, below, above, ratio⟩
    have atLeastLow : (low : Int) ≤ ticks gap := rounds.le_rounded low lowOnGrid (by omega)
    have atLeastHigh := le_ticks_stretched finite highOnGrid ratio atLeastLow
    have stretchedNumeric := (rounds_mul isFinite_threeHalves finite).1
    rcases isFinite_or_infinity stretchedNumeric (by omega) with stretchedFinite | infinite
    · exact .inr ⟨stretchedFinite, by omega⟩
    · exact .inl infinite
  · exact .inl (mul_infinity infinite)

/-! ## The gap between two values -/

section

variable {first second : Float}

/-- With an infinite operand the stretched gap is infinite. -/
theorem stretched_infinity (before : second < first)
    (infinite : ¬ (first.isFinite = true ∧ second.isFinite = true)) :
    (1.5 * (first - second)).toModel.unpack = .infinity .positive := by
  rcases lt_iff_ticks.mp before with ⟨secondNumeric, firstNumeric, less⟩
  apply mul_infinity
  rw [unpack_sub, sub_of_lt_of_infinite (isStored first) (isStored second) firstNumeric
    secondNumeric less infinite]
  exact unpack_pack_infinity .positive

theorem covers_of_lt (before : second < first) :
    Covers (1.5 * (first - second)) (ticks first - ticks second) := by
  by_cases finite : first.isFinite = true ∧ second.isFinite = true
  · rcases rounds_sub finite.1 finite.2 with ⟨numeric, rounds⟩
    exact covers_stretched numeric rounds (Int.sub_pos.mpr (lt_iff_ticks.mp before).2.2)
  · exact .inl (stretched_infinity before finite)

theorem ticks_eq_of_not_lt (firstNumeric : first.isNaN = false)
    (secondNumeric : second.isNaN = false) (notBefore : ¬ second < first)
    (notAfter : ¬ first < second) : ticks first = ticks second := by
  rw [lt_iff_ticks] at notBefore notAfter
  apply le_antisymm
  · exact not_lt.mp fun more => notBefore ⟨secondNumeric, firstNumeric, more⟩
  · exact not_lt.mp fun fewer => notAfter ⟨firstNumeric, secondNumeric, fewer⟩

/-- Between equal finite values the stretched gap is zero. -/
theorem stretched_zero (firstFinite : first.isFinite = true) (secondFinite : second.isFinite = true)
    (same : ticks first = ticks second) :
    (1.5 * (first - second)).isFinite = true ∧ ticks (1.5 * (first - second)) = 0 := by
  have positive := infinityTicks_pos
  rcases rounds_sub firstFinite secondFinite with ⟨numeric, rounds⟩
  have none : ticks (first - second) = 0 := rounds.eq_of_onGrid onGrid_zero (by omega)
  have finite := isFinite_of_natAbs_ticks_lt numeric (by omega)
  rcases rounds_mul isFinite_threeHalves finite with ⟨stretchedNumeric, stretched⟩
  have still : ticks (1.5 * (first - second)) = 0 :=
    stretched.eq_of_onGrid onGrid_zero (by rw [none, mul_zero, zero_mul])
  exact ⟨isFinite_of_natAbs_ticks_lt stretchedNumeric (by omega), still⟩

/-- Values that do not compare with each other leave no gap, or NaN. -/
theorem stretched_of_not_lt (notBefore : ¬ second < first) (notAfter : ¬ first < second) :
    (1.5 * (first - second)).isNaN = true ∨
      first.isFinite = true ∧ second.isFinite = true ∧ ticks first = ticks second := by
  by_cases firstNumeric : first.isNaN = true
  · exact .inl (isNaN_mul_of_right _ (isNaN_sub_of_left _ firstNumeric))
  by_cases secondNumeric : second.isNaN = true
  · exact .inl (isNaN_mul_of_right _ (isNaN_sub_of_right _ secondNumeric))
  rw [Bool.not_eq_true] at firstNumeric secondNumeric
  have same := ticks_eq_of_not_lt firstNumeric secondNumeric notBefore notAfter
  by_cases firstFinite : first.isFinite = true
  · have bounded := natAbs_ticks_lt firstFinite
    exact .inr ⟨firstFinite, isFinite_of_natAbs_ticks_lt secondNumeric (by omega), same⟩
  · exact .inl (isNaN_mul_of_right _
      (isNaN_sub_of_ticks_eq firstNumeric secondNumeric firstFinite same))

end

/-! ## Staging points -/

section

variable {origin far reach : Float} (originFinite : origin.isFinite = true)
  (farNumeric : far.isNaN = false)

include originFinite farNumeric

theorem sub_le_of_covers (covers : Covers reach (ticks origin - ticks far)) :
    origin - reach ≤ far := by
  rw [le_iff_ticks]
  rcases covers with infinite | ⟨finite, reaches⟩
  · have lowest : (origin - reach).toModel.unpack = .infinity .negative := by
      rw [unpack_sub, infinite, sub_eq_add_neg]
      change (Float.Model.pack (add _ _ (.infinity .negative))).unpack = _
      rw [add_infinity originFinite]
      exact unpack_pack_infinity .negative
    have atLowest : ticks (origin - reach) = -infinityTicks := congrArg tally lowest
    have bounded := natAbs_ticks_le far
    exact ⟨congrArg UnpackedFloat.isNaN lowest, farNumeric, by omega⟩
  · rcases rounds_sub originFinite finite with ⟨numeric, rounds⟩
    refine ⟨numeric, farNumeric, rounds.rounded_le _ (onGrid_tally (isStored far)) ?_⟩
    omega

theorem le_add_of_covers (covers : Covers reach (ticks far - ticks origin)) :
    far ≤ origin + reach := by
  rw [le_iff_ticks]
  rcases covers with infinite | ⟨finite, reaches⟩
  · have highest : (origin + reach).toModel.unpack = .infinity .positive := by
      rw [unpack_add, infinite, add_infinity originFinite]
      exact unpack_pack_infinity .positive
    have atHighest : ticks (origin + reach) = infinityTicks := congrArg tally highest
    have bounded := natAbs_ticks_le far
    exact ⟨farNumeric, congrArg UnpackedFloat.isNaN highest, by omega⟩
  · rcases rounds_add originFinite finite with ⟨numeric, rounds⟩
    refine ⟨farNumeric, numeric, rounds.le_rounded _ (onGrid_tally (isStored far)) ?_⟩
    omega

end

section

variable {origin far : Float} (originFinite : origin.isFinite = true)
  (farFinite : far.isFinite = true) (same : ticks origin = ticks far)

include originFinite farFinite same

/-- Without a gap nothing is taken away. -/
theorem sub_stretched_beq : (origin - 1.5 * (origin - far) == origin) = true := by
  rcases stretched_zero originFinite farFinite same with ⟨finite, still⟩
  rcases rounds_sub originFinite finite with ⟨numeric, rounds⟩
  rw [beq_iff_ticks]
  refine ⟨numeric, isNaN_of_isFinite originFinite, ?_⟩
  apply rounds.eq_of_onGrid (onGrid_tally (isStored origin))
  rw [still, Int.sub_zero]
  exact (Int.mul_one _).symm

theorem add_stretched_beq : (origin + 1.5 * (far - origin) == origin) = true := by
  rcases stretched_zero farFinite originFinite same.symm with ⟨finite, still⟩
  rcases rounds_add originFinite finite with ⟨numeric, rounds⟩
  rw [beq_iff_ticks]
  refine ⟨numeric, isNaN_of_isFinite originFinite, ?_⟩
  apply rounds.eq_of_onGrid (onGrid_tally (isStored origin))
  rw [still, Int.add_zero]
  exact (Int.mul_one _).symm

end

section

variable {origin far : Float}

/-- One and a half times the gap below a value, taken away from it, leads below it, unless
there is no gap or the value is infinite. -/
theorem sub_stretched_lt_iff (notBelow : ¬ origin < far) :
    origin - 1.5 * (origin - far) < origin ↔ far < origin ∧ origin.isFinite = true := by
  constructor
  · intro moved
    rcases lt_iff_ticks.mp moved with ⟨numeric, originNumeric, fewer⟩
    by_cases before : far < origin
    · refine ⟨before, ?_⟩
      by_contra infinite
      rcases exists_infinity originNumeric infinite with ⟨sign, shape⟩
      cases sign with
      | negative =>
        have lowest : ticks origin = -infinityTicks := congrArg tally shape
        have bounded := natAbs_ticks_le (origin - 1.5 * (origin - far))
        omega
      | positive =>
        have stretched := stretched_infinity before fun finite => infinite finite.1
        rw [isNaN_eq, unpack_sub, shape, stretched] at numeric
        exact nomatch numeric
    · rcases stretched_of_not_lt before notBelow with undefined | ⟨finite, farFinite, same⟩
      · rw [isNaN_sub_of_right origin undefined] at numeric
        exact nomatch numeric
      · have still := (beq_iff_ticks.mp (sub_stretched_beq finite farFinite same)).2.2
        exact absurd still fewer.ne
  · rintro ⟨before, finite⟩
    have farNumeric := (lt_iff_ticks.mp before).1
    exact lt_of_le_of_lt (sub_le_of_covers finite farNumeric (covers_of_lt before)) before

/-- One and a half times the gap above a value, added to it, leads above it, unless there is
no gap or the value is infinite. -/
theorem lt_add_stretched_iff (notAbove : ¬ far < origin) :
    origin < origin + 1.5 * (far - origin) ↔ origin < far ∧ origin.isFinite = true := by
  constructor
  · intro moved
    rcases lt_iff_ticks.mp moved with ⟨originNumeric, numeric, fewer⟩
    by_cases before : origin < far
    · refine ⟨before, ?_⟩
      by_contra infinite
      rcases exists_infinity originNumeric infinite with ⟨sign, shape⟩
      cases sign with
      | negative =>
        have stretched := stretched_infinity before fun finite => infinite finite.2
        rw [isNaN_eq, unpack_add, shape, stretched] at numeric
        exact nomatch numeric
      | positive =>
        have highest : ticks origin = infinityTicks := congrArg tally shape
        have bounded := natAbs_ticks_le (origin + 1.5 * (far - origin))
        omega
    · rcases stretched_of_not_lt before notAbove with undefined | ⟨farFinite, finite, same⟩
      · rw [isNaN_add_of_right origin undefined] at numeric
        exact nomatch numeric
      · have still := (beq_iff_ticks.mp (add_stretched_beq finite farFinite same.symm)).2.2
        exact absurd still fewer.ne'
  · rintro ⟨before, finite⟩
    have farNumeric := (lt_iff_ticks.mp before).2.1
    exact lt_of_lt_of_le before (le_add_of_covers finite farNumeric (covers_of_lt before))

end

end BeltGantry.Binary64

import BeltGantry.Proofs.Scalar.Difference
namespace BeltGantry.Binary64

open Float.Model UnpackedFloat

/-!
# Ticks of binary64

Every finite value of binary64 is a whole multiple of the least positive one, its
tick.  Counted in ticks the values are integers, an infinity being the first power of
two past the finite ones, and values compare as their ticks do.  Values have short
mantissas, so their ticks lie on a grid that grows coarser away from zero.

Packing a canonical value keeps it, unless its exponent is too large: then the value
becomes an infinity.  In ticks that is a minimum.
-/

/-! ## Ticks -/

/-- Binary places of the ticks of a finite value. -/
@[irreducible] def finitePlaces : Nat := 2098

theorem finitePlaces_eq : finitePlaces = 2098 := by
  unfold finitePlaces
  rfl

/-- Ticks of an infinity. -/
def infinityTicks : Nat := 2 ^ finitePlaces

theorem infinityTicks_pos : 0 < infinityTicks := Nat.two_pow_pos finitePlaces

/-- Ticks of a magnitude. -/
def span (mantissa : Nat) (exponent : Int) : Nat := mantissa * 2 ^ (exponent + 1074).toNat

/-- Ticks of an unpacked value; NaN has none. -/
def tally : UnpackedFloat → Int
  | .notANumber => 0
  | .zero _ => 0
  | .infinity sign => sign.apply infinityTicks
  | .finite sign mantissa exponent _ => sign.apply (span mantissa exponent)

/-- Ticks of a value. -/
def ticks (value : Float) : Int := tally value.toModel.unpack

/-- A mantissa and an exponent as values are stored. -/
structure Stored (mantissa : Nat) (exponent : Int) : Prop where
  bounded : Bounded mantissa exponent
  full : exponent = -1074 ∨ 2 ^ 52 ≤ mantissa
  storable : exponent ≤ 971

/-- What a packed value unpacks to. -/
def IsStored : UnpackedFloat → Prop
  | .finite _ mantissa exponent _ => Stored mantissa exponent
  | _ => True

theorem isStored_unpack (bits : BitVec Format.binary64.numBits) :
    IsStored (UnpackedFloat.unpack Format.binary64 bits) := by
  have canonical := canonical_unpack bits
  have exponentSmall : (unpackExponent bits).toNat < 2 ^ 11 := (unpackExponent bits).isLt
  unfold UnpackedFloat.unpack at canonical ⊢
  dsimp only at canonical ⊢
  split
  · split <;> trivial
  · rename_i notAll
    rw [if_neg notAll] at canonical
    have below : (unpackExponent bits).toNat ≠ 2047 := by
      intro all
      exact notAll (BitVec.eq_of_toNat_eq all)
    have within : (unpackExponent bits).toNat < 2047 := by
      change (unpackExponent bits).toNat < 2048 at exponentSmall
      omega
    split
    · rename_i exponentZero
      rw [if_pos exponentZero] at canonical
      split
      · trivial
      · rename_i mantissaNonzero
        rw [dif_neg mantissaNonzero] at canonical
        have least : (unpackExponent bits).toNat = 0 := congrArg BitVec.toNat exponentZero
        refine ⟨canonical.1, canonical.2, ?_⟩
        rw [least]
        decide
    · rename_i exponentNonzero
      rw [if_neg exponentNonzero] at canonical
      refine ⟨canonical.1, canonical.2, ?_⟩
      change ((unpackExponent bits).toNat : Int) - ((1023 : Nat) + (52 : Nat)) ≤ 971
      omega

theorem span_pos {mantissa : Nat} (positive : 0 < mantissa) (exponent : Int) :
    0 < span mantissa exponent := Nat.mul_pos positive (Nat.two_pow_pos _)

theorem Stored.span_lt {mantissa : Nat} {exponent : Int} (stored : Stored mantissa exponent) :
    span mantissa exponent < infinityTicks := by
  have storable := stored.storable
  calc mantissa * 2 ^ (exponent + 1074).toNat
      < 2 ^ 53 * 2 ^ (exponent + 1074).toNat :=
        (Nat.mul_lt_mul_right (Nat.two_pow_pos _)).mpr stored.bounded.mantissa
    _ = 2 ^ (53 + (exponent + 1074).toNat) := (Nat.pow_add _ _ _).symm
    _ ≤ 2 ^ finitePlaces := Nat.pow_le_pow_right (by decide) (by rw [finitePlaces_eq]; omega)

/-- Of two stored magnitudes, the one with the smaller exponent is smaller, and the
mantissa decides between equal exponents. -/
theorem Stored.span_lt_span {mantissa other : Nat} {exponent otherExponent : Int}
    (stored : Stored mantissa exponent) (otherStored : Stored other otherExponent)
    (before : exponent < otherExponent ∨ exponent = otherExponent ∧ mantissa < other) :
    span mantissa exponent < span other otherExponent := by
  have least := stored.bounded.exponent
  rcases before with below | ⟨rfl, below⟩
  · have large : 2 ^ 52 ≤ other := otherStored.full.resolve_left (by omega)
    calc mantissa * 2 ^ (exponent + 1074).toNat
        < 2 ^ 53 * 2 ^ (exponent + 1074).toNat :=
          (Nat.mul_lt_mul_right (Nat.two_pow_pos _)).mpr stored.bounded.mantissa
      _ = 2 ^ 52 * 2 ^ ((exponent + 1074).toNat + 1) := by ring
      _ ≤ 2 ^ 52 * 2 ^ (otherExponent + 1074).toNat :=
          Nat.mul_le_mul_left _ (Nat.pow_le_pow_right (by decide) (by omega))
      _ ≤ other * 2 ^ (otherExponent + 1074).toNat := Nat.mul_le_mul_right _ large
  · exact (Nat.mul_lt_mul_right (Nat.two_pow_pos _)).mpr below

/-! ## The order of ticks -/

/-- The order of places is the order of ticks. -/
theorem tally_lt_tally {first second : UnpackedFloat} (firstStored : IsStored first)
    (secondStored : IsStored second) {below above : Int ×ₗ Int ×ₗ Int}
    (atFirst : place first = some below) (atSecond : place second = some above)
    (before : below < above) : tally first < tally second := by
  have infinityPositive := infinityTicks_pos
  rcases first with ⟨⟨⟩⟩ | - | ⟨⟩ | ⟨⟨⟩, mantissa, exponent, positive⟩ <;>
    rcases second with ⟨⟨⟩⟩ | - | ⟨⟩ | ⟨⟨⟩, other, otherExponent, otherPositive⟩ <;>
    simp only [place, Option.some.injEq, reduceCtorEq] at atFirst atSecond <;>
    subst atFirst atSecond <;>
    simp only [Prod.Lex.toLex_lt_toLex] at before <;>
    simp only [tally, Sign.apply] <;>
    -- What is left compares the magnitude of a finite value.
    try omega
  · have bounded := Stored.span_lt secondStored
    omega
  · have above := span_pos otherPositive otherExponent
    omega
  · have above := span_pos positive exponent
    omega
  · have shrinks := Stored.span_lt_span secondStored firstStored (by omega)
    omega
  · have above := span_pos positive exponent
    omega
  · have bounded := Stored.span_lt firstStored
    omega
  · have grows := Stored.span_lt_span firstStored secondStored (by omega)
    omega

theorem tally_eq_tally {first second : UnpackedFloat} (same : place first = place second) :
    tally first = tally second := by
  rcases first with ⟨⟨⟩⟩ | - | ⟨⟩ | ⟨⟨⟩, mantissa, exponent, positive⟩ <;>
    rcases second with ⟨⟨⟩⟩ | - | ⟨⟩ | ⟨⟨⟩, other, otherExponent, otherPositive⟩ <;>
    simp_all [place, tally]

theorem lt_iff_tally_lt {first second : UnpackedFloat} (firstStored : IsStored first)
    (secondStored : IsStored second) {below above : Int ×ₗ Int ×ₗ Int}
    (atFirst : place first = some below) (atSecond : place second = some above) :
    below < above ↔ tally first < tally second := by
  constructor
  · exact tally_lt_tally firstStored secondStored atFirst atSecond
  · intro fewer
    rcases lt_trichotomy below above with before | rfl | after
    · exact before
    · exact absurd (tally_eq_tally (atFirst.trans atSecond.symm)) fewer.ne
    · exact absurd (tally_lt_tally secondStored firstStored atSecond atFirst after) fewer.asymm

theorem isStored (value : Float) : IsStored value.toModel.unpack := isStored_unpack _

theorem lt_iff_ticks {first second : Float} : first < second ↔
    first.isNaN = false ∧ second.isNaN = false ∧ ticks first < ticks second := by
  rw [lt_iff_ranks, ← exists_rank_iff, ← exists_rank_iff]
  constructor
  · rintro ⟨below, above, atFirst, atSecond, before⟩
    exact ⟨⟨below, atFirst⟩, ⟨above, atSecond⟩,
      (lt_iff_tally_lt (isStored first) (isStored second) atFirst atSecond).mp before⟩
  · rintro ⟨⟨below, atFirst⟩, ⟨above, atSecond⟩, fewer⟩
    exact ⟨below, above, atFirst, atSecond,
      (lt_iff_tally_lt (isStored first) (isStored second) atFirst atSecond).mpr fewer⟩

theorem le_iff_ticks {first second : Float} : first ≤ second ↔
    first.isNaN = false ∧ second.isNaN = false ∧ ticks first ≤ ticks second := by
  rw [le_iff_ranks, ← exists_rank_iff, ← exists_rank_iff]
  constructor
  · rintro ⟨below, above, atFirst, atSecond, notAfter⟩
    refine ⟨⟨below, atFirst⟩, ⟨above, atSecond⟩, not_lt.mp fun more => ?_⟩
    exact notAfter.not_gt
      ((lt_iff_tally_lt (isStored second) (isStored first) atSecond atFirst).mpr more)
  · rintro ⟨⟨below, atFirst⟩, ⟨above, atSecond⟩, notMore⟩
    refine ⟨below, above, atFirst, atSecond, not_lt.mp fun after => ?_⟩
    exact notMore.not_gt
      ((lt_iff_tally_lt (isStored second) (isStored first) atSecond atFirst).mp after)

theorem beq_iff_ticks {first second : Float} : (first == second) = true ↔
    first.isNaN = false ∧ second.isNaN = false ∧ ticks first = ticks second := by
  rw [beq_iff_ranks, ← exists_rank_iff, ← exists_rank_iff]
  constructor
  · rintro ⟨placed, atFirst, atSecond⟩
    exact ⟨⟨placed, atFirst⟩, ⟨placed, atSecond⟩, tally_eq_tally (atFirst.trans atSecond.symm)⟩
  · rintro ⟨⟨below, atFirst⟩, ⟨above, atSecond⟩, same⟩
    have iffFewer := lt_iff_tally_lt (isStored first) (isStored second) atFirst atSecond
    have iffMore := lt_iff_tally_lt (isStored second) (isStored first) atSecond atFirst
    have level : below = above :=
      le_antisymm (not_lt.mp fun after => (iffMore.mp after).ne same.symm)
        (not_lt.mp fun before => (iffFewer.mp before).ne same)
    exact ⟨above, level ▸ atFirst, atSecond⟩

theorem lt_of_le_of_lt {first second third : Float} (below : first ≤ second)
    (above : second < third) : first < third := by
  rcases le_iff_ticks.mp below with ⟨firstNumeric, -, notMore⟩
  rcases lt_iff_ticks.mp above with ⟨-, thirdNumeric, fewer⟩
  exact lt_iff_ticks.mpr ⟨firstNumeric, thirdNumeric, by omega⟩

theorem lt_of_lt_of_le {first second third : Float} (below : first < second)
    (above : second ≤ third) : first < third := by
  rcases lt_iff_ticks.mp below with ⟨firstNumeric, -, fewer⟩
  rcases le_iff_ticks.mp above with ⟨-, thirdNumeric, notMore⟩
  exact lt_iff_ticks.mpr ⟨firstNumeric, thirdNumeric, by omega⟩

/-! ## The grid -/

/-- Counts of ticks that a stored value or an infinity can have. -/
def OnGrid (count : Nat) : Prop :=
  count ≤ infinityTicks ∧ ∃ mantissa places, mantissa ≤ 2 ^ 53 ∧ count = mantissa * 2 ^ places

theorem onGrid_zero : OnGrid 0 := ⟨Nat.zero_le _, 0, 0, by decide, rfl⟩

theorem onGrid_one : OnGrid 1 := ⟨infinityTicks_pos, 1, 0, by decide, rfl⟩

theorem onGrid_infinityTicks : OnGrid infinityTicks :=
  ⟨Nat.le_refl _, 1, finitePlaces, by decide, (Nat.one_mul _).symm⟩

theorem onGrid_tally {value : UnpackedFloat} (stored : IsStored value) :
    OnGrid (tally value).natAbs := by
  cases value with
  | notANumber => exact onGrid_zero
  | zero sign => exact onGrid_zero
  | infinity sign =>
    have magnitude : (tally (.infinity sign)).natAbs = infinityTicks := by
      cases sign <;> simp [tally, Sign.apply]
    rw [magnitude]
    exact onGrid_infinityTicks
  | finite sign mantissa exponent positive =>
    have magnitude : (tally (.finite sign mantissa exponent positive)).natAbs =
        span mantissa exponent := by
      cases sign <;> simp [tally, Sign.apply]
    rw [magnitude]
    exact ⟨(Stored.span_lt stored).le, mantissa, _, stored.bounded.mantissa.le, rfl⟩

/-! ## Packing -/

theorem unpackSign_packComponents {format : Format} (sign : Sign)
    (exponent : BitVec format.exponentBits)
    (mantissa : BitVec format.mantissaBitsWithoutImplicit) :
    Sign.ofBitVec (unpackSign (packComponents format sign exponent mantissa)) = sign := by
  have kept : unpackSign (packComponents format sign exponent mantissa) = sign.toBitVec := by
    ext place inside
    have first : place = 0 := by omega
    subst first
    simp [unpackSign, packComponents, BitVec.getLsbD_append, BitVec.getElem_append]
  rw [kept]
  cases sign <;> rfl

theorem unpack_pack_infinity (sign : Sign) :
    (Float.Model.pack (.infinity sign)).unpack = .infinity sign := by
  cases sign <;> rfl

theorem unpack_pack_zero (sign : Sign) :
    (Float.Model.pack (.zero sign)).unpack = .zero sign := by
  cases sign <;> rfl

theorem finite_congr {first second : Sign} {mantissa other : Nat} {exponent otherExponent : Int}
    {positive : 0 < mantissa} {otherPositive : 0 < other} (signs : first = second)
    (mantissas : mantissa = other) (exponents : exponent = otherExponent) :
    UnpackedFloat.finite first mantissa exponent positive =
      .finite second other otherExponent otherPositive := by
  subst signs mantissas exponents
  rfl

theorem toNat_ofNat_of_lt {width number : Nat} (fits : number < 2 ^ width) :
    (BitVec.ofNat width number).toNat = number := by
  rw [BitVec.toNat_ofNat, Nat.mod_eq_of_lt fits]

theorem ofNat_ne_of_toNat_ne {width number : Nat} (fits : number < 2 ^ width)
    {bits : BitVec width} (apart : bits.toNat ≠ number) : BitVec.ofNat width number ≠ bits := by
  intro same
  rw [← same, toNat_ofNat_of_lt fits] at apart
  exact apart rfl

/-- A full mantissa is packed without its first place, which unpacking puts back. -/
theorem unpack_pack_of_full {sign : Sign} {mantissa : Nat} {exponent : Int}
    (positive : 0 < mantissa) (bounded : Bounded mantissa exponent) (full : 2 ^ 52 ≤ mantissa)
    (storable : exponent ≤ 971) :
    (Float.Model.pack (.finite sign mantissa exponent positive)).unpack =
      .finite sign mantissa exponent positive := by
  obtain ⟨small, least⟩ := bounded
  -- A name for the stored exponent, so that it is one natural number for `omega`.
  obtain ⟨biased, atBiased⟩ : ∃ biased : Nat,
      biased = (exponent + (1023 : Nat) + (52 : Nat)).toNat := ⟨_, rfl⟩
  have finite : ¬ 2 ^ 11 ≤ biased + 1 := by omega
  have log : mantissa.log2 = 52 := (Nat.log2_eq_iff positive.ne').mpr ⟨full, small⟩
  have packed : UnpackedFloat.pack Format.binary64 (.finite sign mantissa exponent positive) =
      packComponents Format.binary64 sign (BitVec.ofNat _ biased) (BitVec.ofNat _ mantissa) := by
    rw [atBiased] at finite ⊢
    exact (if_neg finite).trans (if_pos (congrArg (· + 1) log))
  have fits : biased < 2 ^ 11 := by omega
  have notAll : BitVec.ofNat 11 biased ≠ -1#_ := by
    apply ofNat_ne_of_toNat_ne fits
    change 2047 ≠ biased
    omega
  have notZero : BitVec.ofNat 11 biased ≠ 0#_ := by
    apply ofNat_ne_of_toNat_ne fits
    change 0 ≠ biased
    omega
  change UnpackedFloat.unpack Format.binary64 (UnpackedFloat.pack Format.binary64 _) = _
  rw [packed]
  unfold UnpackedFloat.unpack
  simp only [unpackSign_packComponents, unpackExponent_packComponents,
    unpackMantissa_packComponents]
  rw [if_neg notAll, if_neg notZero]
  apply finite_congr rfl
  · rw [BitVec.toNat_append, ← Nat.shiftLeft_add_eq_or_of_lt (BitVec.isLt _), BitVec.toNat_ofNat]
    change 2 ^ 52 + mantissa % 2 ^ 52 = mantissa
    omega
  · rw [toNat_ofNat_of_lt fits]
    change (biased : Int) - ((1023 : Nat) + (52 : Nat)) = exponent
    omega

/-- A mantissa that is not full is packed as it is, at the least exponent. -/
theorem unpack_pack_of_least {sign : Sign} {mantissa : Nat} {exponent : Int}
    (positive : 0 < mantissa) (small : mantissa < 2 ^ 52) (least : exponent = -1074) :
    (Float.Model.pack (.finite sign mantissa exponent positive)).unpack =
      .finite sign mantissa exponent positive := by
  have log : mantissa.log2 < 52 := (Nat.log2_lt positive.ne').mpr small
  have finite : ¬ 2 ^ 11 ≤ (exponent + (1023 : Nat) + (52 : Nat)).toNat + 1 := by omega
  have notFull : mantissa.log2 + 1 ≠ 53 := by omega
  have packed : UnpackedFloat.pack Format.binary64 (.finite sign mantissa exponent positive) =
      packComponents Format.binary64 sign 0#_ (BitVec.ofNat _ mantissa) :=
    (if_neg finite).trans (if_neg notFull)
  have notZero : BitVec.ofNat 52 mantissa ≠ 0#_ := ofNat_ne_of_toNat_ne small positive.ne
  change UnpackedFloat.unpack Format.binary64 (UnpackedFloat.pack Format.binary64 _) = _
  rw [packed]
  unfold UnpackedFloat.unpack
  simp only [unpackSign_packComponents, unpackExponent_packComponents,
    unpackMantissa_packComponents]
  rw [if_neg (by decide), if_pos trivial, dif_neg notZero]
  exact finite_congr rfl (toNat_ofNat_of_lt small) least.symm

/-- A stored value is packed without loss. -/
theorem unpack_pack_of_stored {sign : Sign} {mantissa : Nat} {exponent : Int}
    (positive : 0 < mantissa) (stored : Stored mantissa exponent) :
    (Float.Model.pack (.finite sign mantissa exponent positive)).unpack =
      .finite sign mantissa exponent positive := by
  obtain ⟨bounded, full, storable⟩ := stored
  by_cases normal : 2 ^ 52 ≤ mantissa
  · exact unpack_pack_of_full positive bounded normal storable
  · exact unpack_pack_of_least positive (not_le.mp normal) (full.resolve_right normal)

/-- A value past the largest exponent is packed as an infinity. -/
theorem unpack_pack_of_overflow {sign : Sign} {mantissa : Nat} {exponent : Int}
    (positive : 0 < mantissa) (overflow : 971 < exponent) :
    (Float.Model.pack (.finite sign mantissa exponent positive)).unpack = .infinity sign := by
  have large : 2 ^ 11 ≤ (exponent + (1023 : Nat) + (52 : Nat)).toNat + 1 := by omega
  have packed : UnpackedFloat.pack Format.binary64 (.finite sign mantissa exponent positive) =
      packedInfinity Format.binary64 sign := if_pos large
  change UnpackedFloat.unpack Format.binary64 (UnpackedFloat.pack _ _) = _
  rw [packed]
  exact unpack_pack_infinity sign

/-- Ticks of a packed value: an infinity stands for what is too large. -/
theorem tally_unpack_pack {sign : Sign} {mantissa : Nat} {exponent : Int}
    (positive : 0 < mantissa) (bounded : Bounded mantissa exponent)
    (full : exponent = -1074 ∨ 2 ^ 52 ≤ mantissa) :
    tally (Float.Model.pack (.finite sign mantissa exponent positive)).unpack =
      sign.apply (min (span mantissa exponent) infinityTicks : Nat) := by
  by_cases storable : exponent ≤ 971
  · have stored : Stored mantissa exponent := ⟨bounded, full, storable⟩
    rw [unpack_pack_of_stored positive stored, min_eq_left stored.span_lt.le]
    rfl
  · have large : 2 ^ 52 ≤ mantissa := full.resolve_left (by omega)
    have overflown : infinityTicks ≤ span mantissa exponent := by
      calc 2 ^ finitePlaces
          ≤ 2 ^ (52 + (exponent + 1074).toNat) :=
            Nat.pow_le_pow_right (by decide) (by rw [finitePlaces_eq]; omega)
        _ = 2 ^ 52 * 2 ^ (exponent + 1074).toNat := Nat.pow_add _ _ _
        _ ≤ mantissa * 2 ^ (exponent + 1074).toNat := Nat.mul_le_mul_right _ large
    rw [unpack_pack_of_overflow positive (not_le.mp storable), min_eq_right overflown]
    rfl

end BeltGantry.Binary64

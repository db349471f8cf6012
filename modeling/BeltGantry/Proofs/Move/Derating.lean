import Mathlib.Analysis.Real.Sqrt
import BeltGantry.Proofs.Move.Capping
import BeltGantry.Proofs.Scalar.Exact
namespace BeltGantry

/-!
# Slowing a move for its third slot

The third slot takes on a part of the speed of a move, as its travel is a part of the
whole distance.  The check never works that part out: it stretches the caps of the
third slot by the inverse ratio and lowers the caps of the move to them.  In exact
arithmetic this keeps the third slot within its caps, and slows the move no more than
that takes: a cap that was lowered lets the third slot reach its own one exactly.

Speeds are capped by their squares, so a bound on the part of the third slot is read
off a bound on squares.
-/

section

variable {K : Type} [Field K] [LinearOrder K]

theorem Scalar.lesser_eq_min (first second : K) : lesser first second = min first second := by
  unfold lesser
  rcases lt_or_ge second first with below | above
  · rw [if_pos below, min_eq_right below.le]
  · rw [if_neg (not_lt_of_ge above), if_pos (beq_self_eq_true first), min_eq_left above]

namespace Move

variable {move : Move K}

theorem maxCruiseSquared_cap_eq_min (speed accel : K) :
    (move.cap speed accel).maxCruiseSquared = min move.maxCruiseSquared (speed ^ 2) := by
  rw [maxCruiseSquared_cap, ← sq]
  rcases lt_or_ge (speed ^ 2) move.maxCruiseSquared with below | above
  · rw [if_pos below, min_eq_right below.le]
  · rw [if_neg (not_lt_of_ge above), min_eq_left above]

theorem accel_cap_eq_min (speed accel : K) :
    (move.cap speed accel).accel = min move.accel accel := by
  rw [accel_cap, Scalar.lesser_eq_min]

end Move

variable [IsStrictOrderedRing K]

theorem Scalar.magnitude_eq_abs (value : K) : magnitude value = |value| := by
  unfold magnitude
  have origin : (0.0 : K) = 0 := by norm_num
  rw [origin]
  rcases lt_or_ge value 0 with below | above
  · rw [if_pos below, abs_of_neg below]
  · rw [if_neg (not_lt_of_ge above), abs_of_nonneg above]

namespace Move

/-- The distance of a move is the length of its displacement. -/
structure Straight (move : Move K) : Prop where
  nonneg : 0 ≤ move.distance
  squared : move.distance ^ 2 =
    move.travel.x ^ 2 + move.travel.y ^ 2 + move.travel.z ^ 2

theorem Straight.distance_pos {move : Move K} (straight : move.Straight)
    (moving : move.travel.z ≠ 0) : 0 < move.distance := by
  apply lt_of_le_of_ne straight.nonneg
  intro still
  have squares := straight.squared
  rw [← still] at squares
  have third : 0 < move.travel.z ^ 2 := by positivity
  have others : 0 ≤ move.travel.x ^ 2 + move.travel.y ^ 2 := by positivity
  linarith

/-- The part of a speed, or of an acceleration, that the third slot takes on. -/
def thirdPart (move : Move K) (whole : K) : K := whole * |move.travel.z| / move.distance

variable {move : Move K}

theorem thirdPart_le_iff (straight : move.Straight) (moving : move.travel.z ≠ 0)
    {whole cap : K} :
    move.thirdPart whole ≤ cap ↔ whole * |move.travel.z| ≤ cap * move.distance :=
  div_le_iff₀ (straight.distance_pos moving)

end Move

/-- The smaller of an old cap and a stretched one, shrunk again: it is within the cap that
was stretched, and either the old cap was kept or that cap is reached. -/
theorem min_div_bounds (old bound : K) {part : K} (positive : 0 < part) :
    min old (bound / part) * part ≤ bound ∧
      (min old (bound / part) = old ∨ min old (bound / part) * part = bound) := by
  have reached : bound / part * part = bound := div_mul_cancel₀ bound positive.ne'
  constructor
  · calc min old (bound / part) * part
        ≤ bound / part * part := mul_le_mul_of_nonneg_right (min_le_right _ _) positive.le
      _ = bound := reached
  · rcases min_choice old (bound / part) with same | lowered
    · exact .inl same
    · rw [lowered]
      exact .inr reached

namespace Limits

variable {limits : Limits K} {caps : ZCaps K} {move : Move K}

/-- The caps of a slowed move. -/
theorem caps_slowedForZ (caps : ZCaps K) (move : Move K) :
    (slowedForZ caps move).maxCruiseSquared =
        min move.maxCruiseSquared ((caps.maxVelocity * move.distance / |move.travel.z|) ^ 2) ∧
      (slowedForZ caps move).accel =
        min move.accel (caps.maxAccel * move.distance / |move.travel.z|) := by
  unfold slowedForZ
  rw [Move.maxCruiseSquared_cap_eq_min, Move.accel_cap_eq_min, Scalar.magnitude_eq_abs,
    mul_div_assoc, mul_div_assoc]
  exact ⟨rfl, rfl⟩

theorem judge_eq_slowedForZ (accepted : (limits.judge caps move).value.1 = .ok ())
    (moving : move.travel.z ≠ 0) : (limits.judge caps move).value.2 = slowedForZ caps move := by
  have unequal : ¬ (move.travel.z == (0.0 : K)) = true := by
    intro same
    apply moving
    rw [beq_iff_eq.mp same]
    norm_num
  rw [judge_of_firstOffender_eq_none (firstOffender_eq_none_of_judge accepted)]
  exact if_neg unequal

/-- In exact arithmetic, a move that is admitted and moves the third slot comes out of
the check with each cap the smaller of the old one and that of the third slot, stretched
by the ratio of the distances.  So whatever speed or acceleration the move is carried out
with under its caps, the third slot keeps its own; and each cap is the old one or lets
the third slot come up to its own.  No cap falls below zero. -/
theorem judge_derates (limits : Limits K) (caps : ZCaps K) (move : Move K)
    (velocity : 0 < caps.maxVelocity) (accel : 0 < caps.maxAccel)
    (straight : move.Straight) (speed : 0 ≤ move.maxCruiseSquared)
    (moving : move.travel.z ≠ 0) (accepted : (limits.judge caps move).value.1 = .ok ()) :
    let after := (limits.judge caps move).value.2
    let third := move.travel.z
    after.maxCruiseSquared =
        min move.maxCruiseSquared ((caps.maxVelocity * move.distance / |third|) ^ 2) ∧
    after.accel = min move.accel (caps.maxAccel * move.distance / |third|) ∧
    (after.maxCruiseSquared * third ^ 2 ≤ caps.maxVelocity ^ 2 * move.distance ^ 2 ∧
      after.accel * |third| ≤ caps.maxAccel * move.distance) ∧
    (after.maxCruiseSquared = move.maxCruiseSquared ∨
      after.maxCruiseSquared * third ^ 2 = caps.maxVelocity ^ 2 * move.distance ^ 2) ∧
    (after.accel = move.accel ∨ after.accel * |third| = caps.maxAccel * move.distance) ∧
    (0 ≤ after.maxCruiseSquared ∧ (0 ≤ move.accel → 0 ≤ after.accel)) ∧
    (∀ cruise, cruise ^ 2 ≤ after.maxCruiseSquared →
      move.thirdPart cruise ≤ caps.maxVelocity) ∧
    ∀ rate, rate ≤ after.accel → move.thirdPart rate ≤ caps.maxAccel := by
  intro after third
  have part : 0 < |third| := abs_pos.mpr moving
  rcases caps_slowedForZ caps move with ⟨squared, lowered⟩
  rw [← judge_eq_slowedForZ accepted moving] at squared lowered
  have bound : after.maxCruiseSquared = min move.maxCruiseSquared
      (caps.maxVelocity ^ 2 * move.distance ^ 2 / third ^ 2) := by
    rw [squared, div_pow, mul_pow, sq_abs]
  have speeds := min_div_bounds move.maxCruiseSquared
    (caps.maxVelocity ^ 2 * move.distance ^ 2) (pow_pos part 2)
  rw [sq_abs, ← bound] at speeds
  have rates := min_div_bounds move.accel (caps.maxAccel * move.distance) part
  rw [← lowered] at rates
  refine ⟨squared, lowered, ⟨speeds.1, rates.1⟩, speeds.2, rates.2, ?_, ?_, ?_⟩
  · rw [squared, lowered]
    exact ⟨le_min speed (sq_nonneg _), fun given =>
      le_min given (div_nonneg (mul_nonneg accel.le straight.nonneg) part.le)⟩
  · intro cruise capped
    rw [Move.thirdPart_le_iff straight moving]
    -- Both sides are compared by their squares, the right one being no less than zero.
    apply le_of_sq_le_sq _ (mul_nonneg velocity.le straight.nonneg)
    calc (cruise * |third|) ^ 2
        = cruise ^ 2 * third ^ 2 := by rw [mul_pow, sq_abs]
      _ ≤ after.maxCruiseSquared * third ^ 2 :=
          mul_le_mul_of_nonneg_right capped (sq_nonneg third)
      _ ≤ caps.maxVelocity ^ 2 * move.distance ^ 2 := speeds.1
      _ = (caps.maxVelocity * move.distance) ^ 2 := (mul_pow _ _ 2).symm
  · intro rate capped
    rw [Move.thirdPart_le_iff straight moving]
    exact (mul_le_mul_of_nonneg_right capped part.le).trans rates.1

end Limits

end

/-! ## Moves between points -/

noncomputable instance : SquareRoot ℝ where
  sqrt := Real.sqrt

namespace Move

/-- With an exact square root, a move between two points has the distance of a straight
line. -/
theorem straight_between (startPos endPos : Point ℝ) (speed accel : ℝ) :
    (between startPos endPos speed accel).Straight where
  nonneg := Real.sqrt_nonneg _
  squared := by
    let travel := (between startPos endPos speed accel).travel
    change Real.sqrt (travel.x * travel.x + travel.y * travel.y + travel.z * travel.z) ^ 2 =
      travel.x ^ 2 + travel.y ^ 2 + travel.z ^ 2
    have squares : 0 ≤ travel.x * travel.x + travel.y * travel.y + travel.z * travel.z :=
      add_nonneg (add_nonneg (mul_self_nonneg _) (mul_self_nonneg _)) (mul_self_nonneg _)
    rw [Real.sq_sqrt squares, sq, sq, sq]

/-- A move of all three slots. -/
noncomputable def rising : Move ℝ := between ⟨0, 0, 0⟩ ⟨2, 3, 6⟩ 300 3000

theorem distance_rising : rising.distance = 7 := by
  change Real.sqrt ((2 - 0) * (2 - 0) + (3 - 0) * (3 - 0) + (6 - 0) * (6 - 0)) = 7
  rw [Real.sqrt_eq_iff_mul_self_eq_of_pos (by norm_num)]
  norm_num

end Move

namespace Limits

theorem judge_derates_rising :
    let after := ((roomy : Limits ℝ).judge ⟨5, 100⟩ .rising).value.2
    after.maxCruiseSquared = (35 / 6) ^ 2 ∧ after.accel = 350 / 3 ∧
      Move.rising.thirdPart (35 / 6) ≤ 5 := by
  intro after
  have clear : (roomy : Limits ℝ).firstOffender .rising = none := by
    refine List.find?_eq_none.mpr fun slot _ => ?_
    rw [offends_iff]
    rintro ⟨-, outside⟩
    apply outside
    cases slot <;> norm_num [roomy, Triplet.const, Triplet.get, Move.rising, Move.between]
  have accepted : ((roomy : Limits ℝ).judge ⟨5, 100⟩ .rising).value.1 = .ok () := by
    rw [value_judge, clear]
    rfl
  have third : Move.rising.travel.z = 6 := sub_zero 6
  have cruise : Move.rising.maxCruiseSquared = 300 * 300 := rfl
  rcases judge_derates roomy ⟨5, 100⟩ .rising (by norm_num) (by norm_num)
      (Move.straight_between _ _ _ _) (by rw [cruise]; norm_num) (by rw [third]; norm_num)
      accepted with ⟨squared, lowered, -, -, -, -, within, -⟩
  rw [third, Move.distance_rising] at squared lowered
  have stretched : after.maxCruiseSquared = (35 / 6) ^ 2 := by
    rw [squared, cruise]
    norm_num
  have rate : Move.rising.accel = 3000 := rfl
  refine ⟨stretched, ?_, within _ stretched.ge⟩
  rw [lowered, rate]
  norm_num

end Limits

end BeltGantry

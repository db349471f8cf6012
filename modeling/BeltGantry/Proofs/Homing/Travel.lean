import Mathlib.Algebra.Order.Group.Pointwise.Interval
import Mathlib.Tactic.Linarith
import BeltGantry.Proofs.Homing.Approach
import BeltGantry.Proofs.Scalar.Exact
namespace BeltGantry

/-!
# The travel of a homing move

Where a carriage stands is not known before it is homed; it may be anywhere between the
endstop and the end of the range from which the rail homes.  In exact arithmetic the
staging point lies at that end or beyond it, whichever the direction is and wherever in the
range the endstop lies, and the move from there is half as long again as the way from the
end of the range.  So its travel is enough for the carriage, wherever it stands.
-/

variable {α : Type}

/-- The end of the range from which a rail homes. -/
def Rail.farEnd (rail : Rail α) : α :=
  if rail.positiveDir = true then rail.positionMin else rail.positionMax

theorem getElem?_onlyAt_of_ne {length place other : Nat} (inside : other < length)
    (apart : other ≠ place) (value : α) : (onlyAt length place value)[other]? = some none := by
  rw [onlyAt, List.getElem?_set_ne apart.symm, List.getElem?_replicate, if_pos inside]

namespace Rail

variable {K : Type} [Field K] [LinearOrder K] [IsStrictOrderedRing K] {rail : Rail K}

/-- In both directions the staging point is found from the end of the range in the same
way. -/
theorem stagingPoint_eq (rail : Rail K) :
    rail.stagingPoint = rail.positionEndstop + 1.5 * (rail.farEnd - rail.positionEndstop) := by
  unfold stagingPoint farEnd
  cases rail.positiveDir with
  | true =>
    rw [if_pos rfl, if_pos rfl]
    ring
  | false =>
    rw [if_neg Bool.false_ne_true, if_neg Bool.false_ne_true]

theorem abs_travel (rail : Rail K) :
    |rail.positionEndstop - rail.stagingPoint| =
      1.5 * |rail.positionEndstop - rail.farEnd| := by
  have positive : (0 : K) ≤ 1.5 := by norm_num
  calc |rail.positionEndstop - rail.stagingPoint|
      = |1.5 * (rail.positionEndstop - rail.farEnd)| := by
        rw [stagingPoint_eq]
        congr 1
        ring
    _ = 1.5 * |rail.positionEndstop - rail.farEnd| := by
        rw [abs_mul, abs_of_nonneg positive]

/-- The travel of the move is enough for a carriage anywhere on its way to the endstop. -/
theorem abs_sub_le_travel {carriage : K}
    (before : carriage ∈ Set.uIcc rail.farEnd rail.positionEndstop) :
    |rail.positionEndstop - carriage| ≤ |rail.positionEndstop - rail.stagingPoint| := by
  have within := Set.abs_sub_right_of_mem_uIcc before
  have longer : |rail.positionEndstop - rail.farEnd| ≤
      1.5 * |rail.positionEndstop - rail.farEnd| := by
    apply le_mul_of_one_le_left (abs_nonneg _)
    norm_num
  calc |rail.positionEndstop - carriage| ≤ |rail.positionEndstop - rail.farEnd| := within
    _ ≤ 1.5 * |rail.positionEndstop - rail.farEnd| := longer
    _ = |rail.positionEndstop - rail.stagingPoint| := rail.abs_travel.symm

theorem stagedOutside_of_le (notBelow : rail.positionMin ≤ rail.positionEndstop)
    (notAbove : rail.positionEndstop ≤ rail.positionMax) : rail.StagedOutside := by
  unfold StagedOutside
  rw [stagingPoint_eq, farEnd]
  cases rail.positiveDir with
  | true =>
    rw [if_pos rfl, if_pos rfl]
    linarith
  | false =>
    rw [if_neg Bool.false_ne_true, if_neg Bool.false_ne_true]
    linarith

end Rail

namespace HomingMove

variable {K : Type} [Field K] [LinearOrder K] [IsStrictOrderedRing K]

/-- The homing move of a rail with its endstop in the range holds targets for its own axis
alone; it ends at the endstop, starts at the far end of the range or past it, and travels as
far as any carriage between that end and the endstop has to go.  There is one as far as
memory allows. -/
theorem travel_covers {rail : Rail K} (notBelow : rail.positionMin ≤ rail.positionEndstop)
    (notAbove : rail.positionEndstop ≤ rail.positionMax) {axis axisCount : Nat}
    (inside : axis < axisCount) :
    ((∃ move, ofRail? axis rail axisCount = some move) ↔ axisCount < targetLimit) ∧
    ∀ move, ofRail? axis rail axisCount = some move →
      move.axis = axis ∧
      (move.forcePos.length = axisCount ∧ move.homePos.length = axisCount) ∧
      (∀ other < axisCount, other ≠ axis →
        move.forcePos[other]? = some none ∧ move.homePos[other]? = some none) ∧
      move.Relates fun force home =>
        home = rail.positionEndstop ∧
        (if rail.positiveDir = true then force ≤ rail.positionMin
          else rail.positionMax ≤ force) ∧
        ∀ carriage ∈ Set.uIcc rail.farEnd rail.positionEndstop,
          |home - carriage| ≤ |home - force| := by
  refine ⟨exists_ofRail?_iff.trans (and_iff_right inside), fun move laid => ?_⟩
  rcases (ofRail?_eq_some_iff inside).mp laid with ⟨-, rfl⟩
  refine ⟨rfl, ⟨length_onlyAt .., length_onlyAt ..⟩, fun other carried apart => ?_, ?_⟩
  · exact ⟨getElem?_onlyAt_of_ne carried apart _, getElem?_onlyAt_of_ne carried apart _⟩
  · apply (relates_ofRail_iff inside rail).mpr
    exact ⟨rfl, rail.stagedOutside_of_le notBelow notAbove, fun _ => rail.abs_sub_le_travel⟩

end HomingMove

/-- A rail that homes downwards to an endstop in the middle of its range. -/
def Rail.downwards : Rail ℚ :=
  { name := railName "X"
    positionMin := -50.0
    positionMax := 150.0
    positionEndstop := 30.0
    positiveDir := false
    endstop := ⟨"x_endstop", []⟩
    steppers := []
    binding := none }

theorem Rail.ordered_downwards : Rail.downwards.positionMin ≤ Rail.downwards.positionEndstop ∧
    Rail.downwards.positionEndstop ≤ Rail.downwards.positionMax := by
  decide +kernel

namespace HomingMove

theorem travel_covers_downwards :
    ∃ move, ofRail? 1 Rail.downwards 3 = some move ∧ move.homePos[2]? = some none ∧
      move.Relates fun force home => home = 30.0 ∧ 150.0 ≤ force ∧
        |home - 100.0| ≤ |home - force| := by
  have inside : 1 < 3 := by decide
  rcases travel_covers Rail.ordered_downwards.1 Rail.ordered_downwards.2 inside with
    ⟨laid, moves⟩
  rcases laid.mpr (by decide) with ⟨move, found⟩
  rcases moves move found with ⟨-, -, others, force, home, forced, homed, ends, outside, covers⟩
  have before : (100.0 : ℚ) ∈ Set.uIcc Rail.downwards.farEnd Rail.downwards.positionEndstop :=
    Set.mem_uIcc.mpr (.inr (by decide +kernel))
  exact ⟨move, found, (others 2 (by decide) (by decide)).2, force, home, forced, homed, ends,
    outside, covers _ before⟩

/-- There is no homing move on a machine with too many axes, wherever the endstop lies. -/
theorem exists_rail_without_move :
    ¬ ∀ (rail : Rail ℚ) (axis axisCount : Nat), rail.positionMin ≤ rail.positionEndstop →
      rail.positionEndstop ≤ rail.positionMax → axis < axisCount →
      ∃ move, ofRail? axis rail axisCount = some move := by
  intro laid
  have carried : 0 < targetLimit := by decide
  have move := laid Rail.downwards 0 targetLimit Rail.ordered_downwards.1
    Rail.ordered_downwards.2 carried
  exact lt_irrefl _ (exists_ofRail?_iff.mp move).2

end HomingMove

end BeltGantry

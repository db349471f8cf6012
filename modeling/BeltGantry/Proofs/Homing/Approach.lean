import BeltGantry.Proofs.Homing.Overshoot
import BeltGantry.Proofs.Homing.Simulated
import BeltGantry.Proofs.Machine.Acceptance
namespace BeltGantry

/-!
# Homing moves and their endstops

A section is accepted with its endstop anywhere in the range, both ends included, and with
any stated direction.  So an accepted rail may be told to home towards the end at which it
has no endstop; its staging point is then the endstop itself, and its homing move goes
nowhere.  In every other case the move crosses the range up to the endstop, provided that
the endstop is finite, which the checks do not ask for either.  An implied direction is
never of the first kind.
-/

section

variable {α : Type} [Scalar α]

/-- The staging point and the end of a move, which are related in some way. -/
def HomingMove.Relates (move : HomingMove α) (relation : α → α → Prop) : Prop :=
  ∃ force home, move.forcePos[move.axis]? = some (some force) ∧
    move.homePos[move.axis]? = some (some home) ∧ relation force home

/-- A move leads to its end in the direction of homing. -/
def HomingMove.Approaches (move : HomingMove α) (positiveDir : Bool) : Prop :=
  move.Relates fun force home => if positiveDir = true then force < home else home < force

/-- A move ends where it starts. -/
def HomingMove.Stays (move : HomingMove α) : Prop :=
  move.Relates fun force home => (force == home) = true

theorem HomingMove.relates_ofRail_iff {axis axisCount : Nat} (inside : axis < axisCount)
    (rail : Rail α) {relation : α → α → Prop} :
    (ofRail axis rail axisCount).Relates relation ↔
      relation rail.stagingPoint rail.positionEndstop := by
  have atForce := getElem?_onlyAt inside rail.stagingPoint
  have atHome := getElem?_onlyAt inside rail.positionEndstop
  constructor
  · rintro ⟨force, home, forced, homed, related⟩
    rw [← Option.some.inj (Option.some.inj (atForce.symm.trans forced)),
      ← Option.some.inj (Option.some.inj (atHome.symm.trans homed))] at related
    exact related
  · intro related
    exact ⟨_, _, atForce, atHome, related⟩

/-- The targets of a rail are laid out as far as memory allows. -/
theorem HomingMove.ofRail?_eq_some_iff {axis axisCount : Nat} (inside : axis < axisCount)
    {rail : Rail α} {move : HomingMove α} : ofRail? axis rail axisCount = some move ↔
      axisCount < targetLimit ∧ move = ofRail axis rail axisCount := by
  unfold ofRail?
  by_cases fits : axisCount < targetLimit
  · rw [if_pos ⟨inside, fits⟩, Option.some.injEq, and_iff_right fits, eq_comm]
  · rw [if_neg fun laid => fits laid.2]
    exact iff_of_false nofun fun laid => fits laid.1

theorem HomingMove.exists_ofRail?_iff {axis axisCount : Nat} {rail : Rail α} :
    (∃ move, ofRail? axis rail axisCount = some move) ↔
      axis < axisCount ∧ axisCount < targetLimit := by
  unfold ofRail?
  by_cases laid : axis < axisCount ∧ axisCount < targetLimit
  · rw [if_pos laid]
    exact iff_of_true ⟨_, rfl⟩ laid
  · rw [if_neg laid]
    exact iff_of_false nofun laid

/-- Some of the range lies before the endstop for a carriage that homes in a direction. -/
def RailSection.HasRun (given : RailSection α) (positiveDir : Bool) : Prop :=
  if positiveDir = true then given.positionMin < given.positionEndstop
  else given.positionEndstop < given.positionMax

/-- The staging point of a rail is at the far end of the range or past it. -/
def Rail.StagedOutside (rail : Rail α) : Prop :=
  if rail.positiveDir = true then rail.stagingPoint ≤ rail.positionMin
  else rail.positionMax ≤ rail.stagingPoint

end

/-- The ends of the range are numbers, and the endstop has a place between them. -/
structure RailSection.Numeric (given : RailSection Float) : Prop where
  positionMin : given.positionMin.isNaN = false
  positionMax : given.positionMax.isNaN = false
  positionEndstop : given.positionEndstop.isFinite = true

namespace Rail

variable {number : Nat} {letter : Char} {given : RailSection Float} {rail : Rail Float}

/-- The staging point lies before the endstop in the direction of homing, if there is a run
to an endstop that is finite. -/
theorem staged_iff (accepted : ofSection number letter given = .ok rail) :
    (if rail.positiveDir = true then rail.stagingPoint < rail.positionEndstop
      else rail.positionEndstop < rail.stagingPoint) ↔
        given.HasRun rail.positiveDir ∧ given.positionEndstop.isFinite = true := by
  rcases made_of_ofSection accepted with ⟨made, -⟩
  rcases RailSection.unrefused_of_validate made.valid with ⟨-, notBelow, notAbove⟩
  unfold stagingPoint RailSection.HasRun
  rw [made.positionMin, made.positionMax, made.positionEndstop]
  cases rail.positiveDir with
  | true => exact Binary64.sub_stretched_lt_iff notBelow
  | false => exact Binary64.lt_add_stretched_iff notAbove

theorem stagedOutside_of_hasRun (accepted : ofSection number letter given = .ok rail)
    (run : given.HasRun rail.positiveDir) (finite : given.positionEndstop.isFinite = true) :
    rail.StagedOutside := by
  rcases made_of_ofSection accepted with ⟨made, -⟩
  unfold StagedOutside stagingPoint
  unfold RailSection.HasRun at run
  rw [made.positionMin, made.positionMax, made.positionEndstop]
  cases direction : rail.positiveDir with
  | true =>
    rw [direction] at run
    have farNumeric := (Binary64.lt_iff_ticks.mp run).1
    exact Binary64.sub_le_of_covers finite farNumeric (Binary64.covers_of_lt run)
  | false =>
    rw [direction] at run
    have farNumeric := (Binary64.lt_iff_ticks.mp run).2.1
    exact Binary64.le_add_of_covers finite farNumeric (Binary64.covers_of_lt run)

/-- Without a run the staging point is the endstop. -/
theorem stagingPoint_beq_endstop (accepted : ofSection number letter given = .ok rail)
    (numeric : given.Numeric) (still : ¬ given.HasRun rail.positiveDir) :
    (rail.stagingPoint == rail.positionEndstop) = true := by
  rcases made_of_ofSection accepted with ⟨made, -⟩
  rcases RailSection.unrefused_of_validate made.valid with ⟨-, notBelow, notAbove⟩
  have finite := numeric.positionEndstop
  have endstopNumeric := Binary64.isNaN_of_isFinite finite
  have bounded := Binary64.natAbs_ticks_lt finite
  unfold stagingPoint
  unfold RailSection.HasRun at still
  rw [made.positionMin, made.positionMax, made.positionEndstop]
  cases direction : rail.positiveDir with
  | true =>
    rw [direction] at still
    have same := Binary64.ticks_eq_of_not_lt endstopNumeric numeric.positionMin still notBelow
    exact Binary64.sub_stretched_beq finite
      (Binary64.isFinite_of_natAbs_ticks_lt numeric.positionMin (by omega)) same
  | false =>
    rw [direction] at still
    have same := Binary64.ticks_eq_of_not_lt endstopNumeric numeric.positionMax notAbove still
    exact Binary64.add_stretched_beq finite
      (Binary64.isFinite_of_natAbs_ticks_lt numeric.positionMax (by omega)) same

end Rail

/-- An endstop that implies a direction lies at the end of the range in that direction. -/
theorem RailSection.hasRun_of_inferred {given : RailSection Float} {positiveDir : Bool}
    (valid : given.validate = .ok ()) (inferred : given.homingPositiveDir = none)
    (directed : given.homingDirection = .ok positiveDir) (numeric : given.Numeric) :
    given.HasRun positiveDir := by
  have spans : given.positionMin < given.positionMax :=
    (Binary64.lt_iff_of_not_le (unrefused_of_validate valid).1).mpr
      ⟨numeric.positionMin, numeric.positionMax⟩
  unfold homingDirection at directed
  rw [inferred] at directed
  dsimp only at directed
  split at directed
  · rename_i atMax
    cases directed
    exact Binary64.lt_of_lt_of_le spans atMax
  · split at directed
    · rename_i atMin
      cases directed
      exact Binary64.lt_of_le_of_lt atMin spans
    · cases directed

/-- The homing move of a rail approaches its endstop exactly if the endstop is finite and
some of the range lies before it.  It then starts at the far end of the range or past it, so
that it crosses the whole range before the endstop.  An implied direction always leaves a
run; a stated one may name the end at which the endstop lies, and then the move stays where
it is.  Targets exist as far as memory allows. -/
theorem HomingMove.approaches_iff {number : Nat} {letter : Char} {given : RailSection Float}
    {rail : Rail Float} (accepted : Rail.ofSection number letter given = .ok rail)
    {axis axisCount : Nat} (inside : axis < axisCount) :
    ((∃ move, ofRail? axis rail axisCount = some move) ↔ axisCount < targetLimit) ∧
    ∀ move, ofRail? axis rail axisCount = some move →
      (move.Approaches rail.positiveDir ↔
        given.HasRun rail.positiveDir ∧ given.positionEndstop.isFinite = true) ∧
      (move.Approaches rail.positiveDir → rail.StagedOutside) ∧
      (given.Numeric → (given.homingPositiveDir = none → move.Approaches rail.positiveDir) ∧
        (move.Approaches rail.positiveDir ∨ move.Stays)) := by
  rcases Rail.made_of_ofSection accepted with ⟨made, -⟩
  constructor
  · exact exists_ofRail?_iff.trans (and_iff_right inside)
  · intro move laid
    rcases (ofRail?_eq_some_iff inside).mp laid with ⟨-, rfl⟩
    have exactly : (ofRail axis rail axisCount).Approaches rail.positiveDir ↔
        given.HasRun rail.positiveDir ∧ given.positionEndstop.isFinite = true :=
      (relates_ofRail_iff inside rail).trans (Rail.staged_iff accepted)
    refine ⟨exactly, fun approaches => ?_, fun numeric => ⟨fun inferred => ?_, ?_⟩⟩
    · rcases exactly.mp approaches with ⟨run, finite⟩
      exact Rail.stagedOutside_of_hasRun accepted run finite
    · have run := RailSection.hasRun_of_inferred made.valid inferred made.direction numeric
      exact exactly.mpr ⟨run, numeric.positionEndstop⟩
    · by_cases run : given.HasRun rail.positiveDir
      · exact .inl (exactly.mpr ⟨run, numeric.positionEndstop⟩)
      · right
        exact (relates_ofRail_iff inside rail).mpr
          (Rail.stagingPoint_beq_endstop accepted numeric run)

/-- A rail that homes upwards to an endstop in the middle of its range. -/
theorem HomingMove.approaches_iff_midway :
    ∃ rail : Rail Float, Rail.ofSection 0 'X' ⟨[], 0.0, 200.0, 50.0, some true⟩ = .ok rail ∧
      ∃ move, ofRail? 0 rail 3 = some move ∧ rail.positiveDir = true ∧
        move.Approaches true ∧ rail.StagedOutside := by
  rcases Rail.exists_ofSection 0 'X' ⟨[], 0.0, 200.0, 50.0, some true⟩ rfl with
    ⟨rail, accepted⟩
  have upwards : rail.positiveDir = true :=
    (Except.ok.inj (Rail.made_of_ofSection accepted).1.direction).symm
  rcases @approaches_iff 0 'X' _ rail accepted 0 3 (by decide) with ⟨laid, moves⟩
  rcases laid.mpr (by decide) with ⟨move, found⟩
  rcases moves move found with ⟨exactly, outside, -⟩
  have run : RailSection.HasRun (α := Float) ⟨[], 0.0, 200.0, 50.0, some true⟩ rail.positiveDir := by
    rw [upwards]
    change (0.0 : Float) < 50.0
    decide
  have approaches := exactly.mpr ⟨run, rfl⟩
  refine ⟨rail, accepted, move, found, upwards, ?_, outside approaches⟩
  rwa [upwards] at approaches

/-- A rail whose stated direction leads away from its endstop is accepted, and its homing
move does not approach the endstop. -/
theorem HomingMove.not_approaches_of_accepted :
    ¬ ∀ (number : Nat) (letter : Char) (given : RailSection Float) (rail : Rail Float)
      (axis axisCount : Nat) (move : HomingMove Float),
      Rail.ofSection number letter given = .ok rail → axis < axisCount →
        ofRail? axis rail axisCount = some move → move.Approaches rail.positiveDir := by
  intro approaches
  rcases Rail.exists_ofSection 0 'X' ⟨[], 0.0, 200.0, 0.0, some true⟩ rfl with
    ⟨rail, accepted⟩
  have upwards : rail.positiveDir = true :=
    (Except.ok.inj (Rail.made_of_ofSection accepted).1.direction).symm
  have inside : 0 < 3 := by decide
  have reached := approaches 0 'X' _ rail 0 3 _ accepted inside
    ((ofRail?_eq_some_iff inside).mpr ⟨by decide, rfl⟩)
  have run := ((Rail.staged_iff accepted).mp ((relates_ofRail_iff inside rail).mp reached)).1
  rw [upwards] at run
  change (0.0 : Float) < 0.0 at run
  exact absurd run (by decide)

end BeltGantry

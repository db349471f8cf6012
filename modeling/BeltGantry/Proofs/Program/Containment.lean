import Mathlib.Data.List.TakeWhile
import BeltGantry.Program.Outcome
import BeltGantry.Proofs.Gantry.Equipment
import BeltGantry.Proofs.Machine.Acceptance
import BeltGantry.Proofs.Scalar.Difference
namespace BeltGantry

/-!
# Where a program may lead

A program tries targets one after the other, each from where the last admitted one
ended.  The check of a move looks at the slots that move, and only at those; a slot
that keeps its place is safe because the place was safe before.  So containment is
an invariant of the tracked position: after homing it lies within the travel of
every rail, and at zero where there is none.  Without homing no slot has a limit, so
nothing but standing still is admitted and the position never leaves zero.

Displacements are differences of binary64.  All that is needed of them is that a
displacement of zero leaves a slot where it is.
-/

/-- Every component of a position is zero. -/
def Triplet.AtZero (position : Point Float) : Prop :=
  ∀ slot, (position.get slot == 0.0) = true

namespace Gantry

/-- A position lies within the travel of every rail, and at zero in every dummy. -/
structure Encloses (gantry : Gantry Float) (position : Point Float) : Prop where
  within : ∀ slot rail, gantry.rails.get slot = some rail →
    rail.positionMin ≤ position.get slot ∧ position.get slot ≤ rail.positionMax
  atZero : ∀ slot, gantry.axisSet.isDummy slot = true → (position.get slot == 0.0) = true

end Gantry

/-! ## Admitted moves -/

theorem Move.get_travel {α : Type} [Scalar α] [SquareRoot α] (startPos endPos : Point α)
    (speed accel : α) (slot : Slot) :
    (between startPos endPos speed accel).travel.get slot =
      endPos.get slot - startPos.get slot := by
  cases slot <;> rfl

section

variable {limits : Limits Float} {current target : Point Float} {speed accel : Float}

/-- A slot of an admitted move keeps its place or ends within its limit. -/
theorem Limits.same_or_contains
    (admitted : limits.firstOffender (.between current target speed accel) = none) (slot : Slot) :
    (target.get slot == current.get slot) = true ∨
      (limits.get slot).contains (target.get slot) = true := by
  have harmless := List.find?_eq_none.mp admitted slot slot.mem_all
  rw [Bool.not_eq_true, offends, Move.get_travel, Bool.and_eq_false_iff, Bool.not_eq_false',
    Bool.not_eq_false'] at harmless
  rcases harmless with still | inside
  · exact .inl (Binary64.beq_of_sub_beq_zero still)
  · exact .inr inside

/-- Where no slot is homed, exactly the targets at zero are admitted from zero. -/
theorem Limits.firstOffender_eq_none_iff_of_unhomed
    (unhomed : ∀ slot, limits.get slot = Limit.unhomed)
    (origin : current.AtZero) :
    limits.firstOffender (.between current target speed accel) = none ↔ target.AtZero := by
  constructor
  · intro admitted slot
    rcases Limits.same_or_contains admitted slot with same | inside
    · exact BEq.trans same (origin slot)
    · have homed := Limit.isHomed_of_contains inside
      rw [unhomed slot, Limit.isHomed_unhomed] at homed
      cases homed
  · intro atZero
    refine List.find?_eq_none.mpr fun slot _ => ?_
    rw [Bool.not_eq_true]
    apply Limits.offends_eq_false_of_still
    rw [Move.get_travel]
    exact Binary64.sub_beq_zero (atZero slot) (origin slot)

end

namespace Gantry

variable {gantry ready : Gantry Float} {current target : Point Float} {speed accel : Float}

/-- A limit that contains a position is the range of a rail. -/
theorem Sound.exists_rail_of_contains (sound : gantry.Sound) {slot : Slot} {position : Float}
    (inside : (gantry.limits.get slot).contains position = true) :
    ∃ rail, gantry.rails.get slot = some rail ∧
      rail.positionMin ≤ position ∧ position ≤ rail.positionMax := by
  have homed : gantry.limits.get slot ≠ Limit.unhomed := by
    intro unhomed
    have isHomed := Limit.isHomed_of_contains inside
    rw [unhomed, Limit.isHomed_unhomed] at isHomed
    cases isHomed
  rcases Option.map_eq_some_iff.mp (sound.railRange?_of_ne homed) with ⟨rail, held, ranged⟩
  rw [← ranged] at inside
  rcases Bool.and_eq_true_iff.mp inside with ⟨above, below⟩
  exact ⟨rail, held, of_decide_eq_true above, of_decide_eq_true below⟩

/-- What is enclosed does not depend on how a gantry is used. -/
theorem Encloses.of_sameRails (enclosed : gantry.Encloses target)
    (same : gantry.SameRails ready) : ready.Encloses target where
  within := by
    intro slot rail held
    have ranged : gantry.railRange? slot = some rail.range := by
      rw [← same.railRange? slot, railRange?, held]
      rfl
    rcases Option.map_eq_some_iff.mp ranged with ⟨other, otherHeld, sameRange⟩
    have bounds := enclosed.within slot other otherHeld
    have sameMin : other.positionMin = rail.positionMin := congrArg Limit.low sameRange
    have sameMax : other.positionMax = rail.positionMax := congrArg Limit.high sameRange
    rwa [sameMin, sameMax] at bounds
  atZero := by
    intro slot dummy
    rw [same.axisSet] at dummy
    exact enclosed.atZero slot dummy

/-- From an enclosed position, admitted moves lead to enclosed positions. -/
theorem Sound.encloses_of_admitted (sound : gantry.Sound) (enclosed : gantry.Encloses current)
    (admitted : gantry.limits.firstOffender (.between current target speed accel) = none) :
    gantry.Encloses target where
  within := by
    intro slot rail held
    rcases Limits.same_or_contains admitted slot with same | inside
    · rcases enclosed.within slot rail held with ⟨above, below⟩
      exact ⟨Binary64.le_of_le_of_beq above same, Binary64.le_of_beq_of_le same below⟩
    · rcases sound.exists_rail_of_contains inside with ⟨other, otherHeld, bounds⟩
      rw [held, Option.some.injEq] at otherHeld
      exact otherHeld ▸ bounds
  atZero := by
    intro slot dummy
    rcases Limits.same_or_contains admitted slot with same | inside
    · exact BEq.trans same (enclosed.atZero slot dummy)
    · rcases sound.exists_rail_of_contains inside with ⟨rail, held, -⟩
      have configured := (exists_rail_iff_of_fitted (sound.fitted slot)).mp ⟨rail, held⟩
      rw [dummy] at configured
      cases configured

end Gantry

namespace Program

/-! ## Trying targets -/

section

variable {α : Type} [Scalar α] [SquareRoot α] (gantry : Gantry α) (printer : PrinterSection α)

/-- Where a gantry stands after each target of a list. -/
def track : Point α → List (Point α) → List (Point α)
  | _, [] => []
  | current, target :: rest =>
    let next := (tryTarget gantry printer current target).value.2
    next :: track next rest

/-- The move that a target asks for. -/
def wanted (current target : Point α) : Move α :=
  .between current target printer.maxVelocity printer.maxAccel

theorem value_tryTarget (current target : Point α) :
    (tryTarget gantry printer current target).value =
      let checked := (gantry.checkMove (wanted printer current target)).value
      match checked.1 with
      | .ok () => (⟨target, checked.2.maxCruise, checked.2.accel, none⟩, target)
      | .error fault => (⟨target, checked.2.maxCruise, checked.2.accel, some fault⟩, current) := by
  unfold tryTarget wanted
  dsimp only
  rcases gantry.checkMove (.between current target printer.maxVelocity printer.maxAccel) with
    ⟨⟨_ | _, move⟩, notices⟩ <;> rfl

theorem endPos_tryTarget (current target : Point α) :
    (tryTarget gantry printer current target).value.1.endPos = target := by
  rw [value_tryTarget]
  dsimp only
  split <;> rfl

/-- A target is accepted, and becomes the position, exactly if its move is admitted. -/
theorem tryTarget_cases (current target : Point α) :
    let outcome := (tryTarget gantry printer current target).value
    gantry.limits.firstOffender (wanted printer current target) = none ∧
        outcome.1.accepted = true ∧ outcome.2 = target ∨
      gantry.limits.firstOffender (wanted printer current target) ≠ none ∧
        outcome.1.accepted = false ∧ outcome.2 = current := by
  have answered : (gantry.checkMove (wanted printer current target)).value.1 =
      (gantry.limits.answerAt (wanted printer current target)
        (gantry.limits.firstOffender (wanted printer current target))).mapError
          Fault.moveRejected :=
    congrArg (Except.mapError Fault.moveRejected)
      (gantry.limits.value_judge gantry.caps (wanted printer current target))
  rw [value_tryTarget]
  simp only [answered]
  cases gantry.limits.firstOffender (wanted printer current target) with
  | none => exact .inl ⟨rfl, rfl, rfl⟩
  | some slot => exact .inr ⟨Option.some_ne_none slot, rfl, rfl⟩

theorem value_tryTargets_cons (target : Point α) (rest : List (Point α)) (current : Point α) :
    (tryTargets gantry printer (target :: rest) current).value =
      (tryTarget gantry printer current target).value.1 ::
        (tryTargets gantry printer rest (tryTarget gantry printer current target).value.2).value :=
  rfl

/-- The entries of a report are the answers to its targets, each tried from where the
one before it left the gantry. -/
theorem value_tryTargets (targets : List (Point α)) (current : Point α) :
    (tryTargets gantry printer targets current).value =
      List.zipWith (fun current target => (tryTarget gantry printer current target).value.1)
        (current :: track gantry printer current targets) targets := by
  induction targets generalizing current with
  | nil => rfl
  | cons target rest inductionHypothesis =>
    rw [value_tryTargets_cons, track, List.zipWith_cons_cons, inductionHypothesis]

theorem endPos_tryTargets (targets : List (Point α)) (current : Point α) :
    (tryTargets gantry printer targets current).value.map TargetReport.endPos = targets := by
  induction targets generalizing current with
  | nil => rfl
  | cons target rest inductionHypothesis =>
    rw [value_tryTargets_cons, List.map_cons, inductionHypothesis, endPos_tryTarget]

/-- What admitted moves preserve holds of every position that is tracked. -/
theorem forall_track {property : Point α → Prop}
    (kept : ∀ current target, property current →
      gantry.limits.firstOffender (wanted printer current target) = none → property target)
    (targets : List (Point α)) {start : Point α} (holds : property start) :
    ∀ position ∈ start :: track gantry printer start targets, property position := by
  induction targets generalizing start with
  | nil => simpa [track] using holds
  | cons target rest inductionHypothesis =>
    refine List.forall_mem_cons.mpr ⟨holds, inductionHypothesis ?_⟩
    rcases tryTarget_cases gantry printer start target with
      ⟨admitted, -, moved⟩ | ⟨-, -, stayed⟩
    · rw [moved]
      exact kept start target holds admitted
    · rw [stayed]
      exact holds

theorem exists_of_mem_tryTargets {targets : List (Point α)} {start : Point α}
    {entry : TargetReport α}
    (listed : entry ∈ (tryTargets gantry printer targets start).value) :
    ∃ current ∈ start :: track gantry printer start targets,
      entry = (tryTarget gantry printer current entry.endPos).value.1 := by
  induction targets generalizing start with
  | nil => cases listed
  | cons target rest inductionHypothesis =>
    rw [value_tryTargets_cons] at listed
    rcases List.mem_cons.mp listed with rfl | later
    · refine ⟨start, List.mem_cons_self, ?_⟩
      rw [endPos_tryTarget]
    · rcases inductionHypothesis later with ⟨current, tracked, same⟩
      exact ⟨current, List.mem_cons_of_mem start tracked, same⟩

end

/-! ## The start of a run -/

section

variable {α : Type} [Scalar α] (gantry : Gantry α)

theorem value_homeAll :
    (homeAll gantry).value =
      let homed := (gantry.home SimulatedHoming.host ⟨gantry.axisSet.indices, none, [], []⟩).value
      let position := homed.2.finalPosition gantry.axisSet.triplet
      let moved := (gantry.setPosition position homed.2.homedAxes).value
      match homed.1 with
      | .error fault => .error fault
      | .ok () =>
        match moved.1 with
        | .error fault => .error fault
        | .ok () => .ok (moved.2, position) := by
  unfold homeAll
  rw [Noted.value_bind]
  rcases (gantry.home SimulatedHoming.host ⟨gantry.axisSet.indices, none, [], []⟩).value with
    ⟨_ | _, homing⟩
  · rfl
  · dsimp only
    rw [Noted.value_bind]
    rcases (gantry.setPosition (homing.finalPosition gantry.axisSet.triplet)
      homing.homedAxes).value with ⟨_ | _, moved⟩ <;> rfl

variable {gantry}

/-- Homing all axes succeeds unless targets do not fit into memory, and homes exactly
the configured ones. -/
theorem exists_ready_of_homeAll (equipped : gantry.Equipped)
    (fits : gantry.axisCount < targetLimit) :
    ∃ ready start, (homeAll gantry).value = .ok (ready, start) ∧ gantry.SameRails ready ∧
      (gantry.Sound → ready.Sound) ∧
      gantry.HomesExactly ready start gantry.axisSet.indices := by
  have known : ∀ axis ∈ gantry.axisSet.indices, gantry.axisSet.slotOf axis ≠ none :=
    fun axis => gantry.axisSet.slotOf_ne_none
  have recordable : gantry.recordable gantry.axisSet.indices none = gantry.axisSet.indices := by
    unfold Gantry.recordable
    rw [if_pos ⟨known, fits⟩]
    exact List.takeWhile_eq_self_iff.mpr fun axis _ => by simp
  rcases equipped.homesExactly gantry.axisSet.indices none with ⟨homedAxes, succeeded, exactly⟩
  have homed := equipped.result_home known fits
  rw [recordable] at exactly
  have same := gantry.sameRails_setPosition
  refine ⟨_, _, ?_, same _ _, fun sound => ?_, exactly⟩
  · rw [value_homeAll]
    dsimp only
    rw [homed, succeeded]
  · exact sound.of_touched (same _ _) _ (gantry.limits_setPosition _ _)

/-- Where targets do not fit into memory, homing all axes ends at the first of them. -/
theorem homeAll_of_overflow (equipped : gantry.Equipped)
    (configured : gantry.axisSet.indices ≠ []) (unfit : targetLimit ≤ gantry.axisCount) :
    ∃ axis, gantry.axisSet.indices.head? = some axis ∧
      (homeAll gantry).value = .error (.homing (.noTargets axis gantry.axisCount)) := by
  rcases equipped.home_of_overflow SimulatedHoming.host ⟨gantry.axisSet.indices, none, [], []⟩
    configured (fun axis => gantry.axisSet.slotOf_ne_none) unfit with ⟨axis, first, ended⟩
  refine ⟨axis, first, ?_⟩
  rw [value_homeAll, ended]

end

/-- All axes homed leave the gantry at its endstops, which its rails enclose. -/
theorem encloses_of_homesExactly {gantry ready : Gantry Float} {start : Point Float}
    (equipped : gantry.Equipped)
    (homed : gantry.HomesExactly ready start gantry.axisSet.indices)
    (ordered : ∀ slot rail, gantry.rails.get slot = some rail →
      rail.positionMin ≤ rail.positionEndstop ∧ rail.positionEndstop ≤ rail.positionMax) :
    gantry.Encloses start where
  within := by
    intro slot rail held
    have configured :=
      (Gantry.exists_rail_iff_of_fitted (equipped.fitted slot)).mp ⟨rail, held⟩
    have listed := gantry.axisSet.globalIndex_mem_indices_iff.mpr configured
    rcases homed.homed slot listed with ⟨other, otherHeld, -, atEndstop⟩
    rw [held, Option.some.injEq] at otherHeld
    subst otherHeld
    rw [atEndstop]
    exact ordered slot rail held
  atZero := by
    intro slot dummy
    have unlisted : gantry.axisSet.globalIndex slot ∉ gantry.axisSet.indices := by
      rw [gantry.axisSet.globalIndex_mem_indices_iff, dummy]
      exact Bool.true_eq_false_eq_False
    rw [(homed.others slot unlisted).2]
    decide

/-- The endstop of each rail shows that its travel is not empty. -/
theorem isHomed_of_homesExactly {gantry ready : Gantry Float} {start : Point Float}
    (homed : gantry.HomesExactly ready start gantry.axisSet.indices)
    (ordered : ∀ slot rail, gantry.rails.get slot = some rail →
      rail.positionMin ≤ rail.positionEndstop ∧ rail.positionEndstop ≤ rail.positionMax)
    (slot : Slot) (configured : gantry.axisSet.isDummy slot = false) :
    (ready.limits.get slot).isHomed = true := by
  have listed := gantry.axisSet.globalIndex_mem_indices_iff.mpr configured
  rcases homed.homed slot listed with ⟨rail, held, limit, -⟩
  rcases ordered slot rail held with ⟨above, below⟩
  rw [limit]
  exact decide_eq_true (Binary64.le_trans above below)

theorem indices_ne_nil_of_build {α : Type} [Scalar α] {toolhead : Toolhead α}
    {machine : Machine α} {number : Nat} {queue : Option MotionQueue} {letters : String}
    {indices : List Nat} {gantry : Gantry α}
    (built : (Gantry.build toolhead machine number queue letters indices).value.1 = .ok gantry) :
    gantry.axisSet.indices ≠ [] := by
  rcases Gantry.stages_of_build built with ⟨set, assembly, caps, -, made, -, same⟩
  rcases Assembly.pair_of_make made with ⟨rail, -, atX, -⟩
  rcases (Assembly.holds_of_make made .x).exists_section atX with ⟨axis, -, configured, -⟩
  rw [same]
  exact List.ne_nil_of_mem
    (set.globalIndex_mem_indices_iff.mpr (set.isDummy_eq_false_iff.mpr ⟨axis, configured⟩))

/-- Rails have their measures in order if the sections that they come from do. -/
theorem rails_of_sections {toolhead : Toolhead Float} {machine : Machine Float} {number : Nat}
    {queue : Option MotionQueue} {letters : String} {indices : List Nat} {gantry : Gantry Float}
    (built : (Gantry.build toolhead machine number queue letters indices).value.1 = .ok gantry)
    (ordered : ∀ slot axis given, gantry.axisSet.axisAt slot = some axis →
      machine.rail? axis.letter = some given →
      given.positionMin ≤ given.positionEndstop ∧ given.positionEndstop ≤ given.positionMax)
    (slot : Slot) (rail : Rail Float) (held : gantry.rails.get slot = some rail) :
    rail.positionMin ≤ rail.positionEndstop ∧ rail.positionEndstop ≤ rail.positionMax := by
  rcases (Gantry.holds_of_build built slot).exists_section held with
    ⟨axis, given, configured, found, made⟩
  rw [made.positionMin, made.positionMax, made.positionEndstop]
  exact ordered slot axis given configured found

/-! ## A whole run -/

section

variable {α : Type} [Scalar α]

/-- The gantry and the position that the first target is tried with, or the fault that
ends the run before it. -/
def prepared (machine : Machine α) (home : Bool) : Except (Fault α) (Gantry α × Point α) :=
  match machine.validate with
  | .error cause => .error (.config (.invalid cause))
  | .ok () =>
    match (Gantry.build (.ofPrinter machine.printer) machine 0 none machine.kinematics.axes
        machine.kinematics.axisIndices).value.1 with
    | .error fault => .error fault
    | .ok gantry => (startingPoint home gantry).value

theorem prepared_of_invalid {machine : Machine α} {cause : Invalid α}
    (refused : machine.validate = .error cause) (home : Bool) :
    prepared machine home = .error (.config (.invalid cause)) := by
  rw [prepared, refused]

theorem prepared_of_unbuilt {machine : Machine α} {fault : Fault α}
    (valid : machine.validate = .ok ())
    (failed : (Gantry.build (.ofPrinter machine.printer) machine 0 none machine.kinematics.axes
      machine.kinematics.axisIndices).value.1 = .error fault) (home : Bool) :
    prepared machine home = .error fault := by
  rw [prepared, valid, failed]

theorem prepared_of_build {machine : Machine α} {gantry : Gantry α}
    (valid : machine.validate = .ok ())
    (built : (Gantry.build (.ofPrinter machine.printer) machine 0 none machine.kinematics.axes
      machine.kinematics.axisIndices).value.1 = .ok gantry) (home : Bool) :
    prepared machine home = (startingPoint home gantry).value := by
  rw [prepared, valid, built]

variable [SquareRoot α]

/-- Once a run is prepared, it ends with a report. -/
theorem value_run (machine : Machine α) (configName : String) (home : Bool)
    (targets : List (Point α)) :
    (run machine configName home targets).value =
      (prepared machine home).map fun (ready, start) =>
        { status := (ready.status 0.0).value
          moves := (tryTargets ready machine.printer targets start).value } := by
  unfold run prepared
  cases machine.validate with
  | error cause => rfl
  | ok _ =>
    simp only [Noted.value_bind]
    cases (Gantry.build (.ofPrinter machine.printer) machine 0 none machine.kinematics.axes
        machine.kinematics.axisIndices).value.1 with
    | error fault => rfl
    | ok gantry =>
      simp only [Noted.value_bind]
      cases (startingPoint home gantry).value <;> rfl

end

/-- From an enclosed start, no target leads out of the enclosure. -/
theorem encloses_of_track {ready : Gantry Float} (sound : ready.Sound) {start : Point Float}
    (enclosed : ready.Encloses start) (printer : PrinterSection Float)
    (targets : List (Point Float)) :
    (∀ position ∈ start :: track ready printer start targets, ready.Encloses position) ∧
    ∀ entry ∈ (tryTargets ready printer targets start).value,
      entry.accepted = true → ready.Encloses entry.endPos := by
  have tracked : ∀ position ∈ start :: track ready printer start targets,
      ready.Encloses position := by
    apply forall_track ready printer _ targets enclosed
    intro current target before admitted
    exact sound.encloses_of_admitted before admitted
  refine ⟨tracked, fun entry listed accepted => ?_⟩
  rcases exists_of_mem_tryTargets ready printer listed with ⟨current, before, same⟩
  rcases tryTarget_cases ready printer current entry.endPos with
    ⟨admitted, -, -⟩ | ⟨-, refused, -⟩
  · exact sound.encloses_of_admitted (tracked current before) admitted
  · rw [← same, accepted] at refused
    cases refused

/-- Without a homed slot, the position stays at zero and only zero is accepted. -/
theorem atZero_of_track {gantry : Gantry Float}
    (unhomed : ∀ slot, gantry.limits.get slot = Limit.unhomed) {start : Point Float}
    (origin : start.AtZero) (printer : PrinterSection Float) (targets : List (Point Float)) :
    (∀ position ∈ start :: track gantry printer start targets, position.AtZero) ∧
    ∀ entry ∈ (tryTargets gantry printer targets start).value,
      (entry.accepted = true ↔ entry.endPos.AtZero) := by
  have tracked : ∀ position ∈ start :: track gantry printer start targets,
      position.AtZero := by
    apply forall_track gantry printer _ targets origin
    intro current target before admitted
    exact (Limits.firstOffender_eq_none_iff_of_unhomed unhomed before).mp admitted
  refine ⟨tracked, fun entry listed => ?_⟩
  rcases exists_of_mem_tryTargets gantry printer listed with ⟨current, before, same⟩
  have exactly : gantry.limits.firstOffender (wanted printer current entry.endPos) = none ↔
      entry.endPos.AtZero :=
    Limits.firstOffender_eq_none_iff_of_unhomed unhomed (tracked current before)
  rw [← exactly, same, endPos_tryTarget]
  rcases tryTarget_cases gantry printer current entry.endPos with
    ⟨admitted, accepted, -⟩ | ⟨offending, refused, -⟩
  · exact iff_of_true accepted admitted
  · exact iff_of_false (by rw [refused]; decide) offending

/-- An enclosed position lies within the published range of every configured slot. -/
theorem spans_of_encloses {ready : Gantry Float} (sound : ready.Sound) {position : Point Float}
    (enclosed : ready.Encloses position) (time : Float) {slot : Slot}
    (configured : ready.axisSet.isDummy slot = false) :
    (ready.status time).value.spans slot (position.get slot) = true := by
  rcases (Gantry.exists_rail_iff_of_fitted (sound.fitted slot)).mpr configured with ⟨rail, held⟩
  have published : ready.range slot = rail.range := by
    unfold Gantry.range
    rw [held]
  rcases enclosed.within slot rail held with ⟨above, below⟩
  simp only [Status.spans, Gantry.status, Triplet.get_ofSlots, published]
  exact Bool.and_eq_true_iff.mpr ⟨decide_eq_true above, decide_eq_true below⟩

end Program

/-- A field of a record. -/
def Text.Datum.field? (document : Text.Datum) (name : String) : Option Text.Datum :=
  match document with
  | .record fields => fields.lookup name
  | _ => none

/-- The printed entry of a target says whether it was accepted, and holds an error
exactly if it was not. -/
theorem TargetReport.fields_datum (entry : TargetReport Float) :
    entry.datum.field? "accepted" = some (.flag entry.accepted) ∧
      ((entry.datum.field? "error").isSome = true ↔ entry.accepted = false) := by
  unfold datum accepted
  cases entry.refusal with
  | none => exact ⟨rfl, iff_of_false (fun present => nomatch present) (by decide)⟩
  | some fault => exact ⟨rfl, iff_of_true rfl rfl⟩

namespace Program

/-- What a report says, and where the gantry stood between its entries. -/
structure Contained (gantry ready : Gantry Float) (printer : PrinterSection Float) (home : Bool)
    (start : Point Float) (targets : List (Point Float)) (report : Report Float) : Prop where
  /-- Each target is tried from the position that is tracked so far. -/
  entries : report.moves = List.zipWith
    (fun current target => (tryTarget ready printer current target).value.1)
    (start :: track ready printer start targets) targets
  ordered : report.moves.map TargetReport.endPos = targets
  enclosed : home = true →
    ∀ position ∈ start :: track ready printer start targets, gantry.Encloses position
  still : home = false →
    (∀ position ∈ start :: track ready printer start targets, position.AtZero) ∧
      ∀ entry ∈ report.moves, (entry.accepted = true ↔ entry.endPos.AtZero)
  status : report.status = (ready.status 0.0).value
  /-- The status lists the slots that are homed and configured. -/
  lists : ∀ slot, report.status.lists slot =
    ((ready.limits.get slot).isHomed && !ready.axisSet.isDummy slot)
  homed : home = true → ∀ slot, ready.axisSet.isDummy slot = false →
    (ready.limits.get slot).isHomed = true
  ranged : ∀ entry ∈ report.moves, entry.accepted = true →
    ∀ slot, (ready.limits.get slot).isHomed = true → ready.axisSet.isDummy slot = false →
      report.status.spans slot (entry.endPos.get slot) = true
  errors : ∀ entry ∈ report.moves,
    entry.datum.field? "accepted" = some (.flag entry.accepted) ∧
      ((entry.datum.field? "error").isSome = true ↔ entry.accepted = false)

def reportFrom (ready : Gantry Float) (printer : PrinterSection Float) (start : Point Float)
    (targets : List (Point Float)) : Report Float :=
  { status := (ready.status 0.0).value
    moves := (tryTargets ready printer targets start).value }

theorem contained_of_homed {gantry ready : Gantry Float} {start : Point Float}
    (sound : ready.Sound) (same : gantry.SameRails ready) (enclosed : gantry.Encloses start)
    (homed : ∀ slot, gantry.axisSet.isDummy slot = false → (ready.limits.get slot).isHomed = true)
    (printer : PrinterSection Float) (targets : List (Point Float)) :
    Contained gantry ready printer true start targets
      (reportFrom ready printer start targets) := by
  rcases encloses_of_track sound (enclosed.of_sameRails same) printer targets with
    ⟨tracked, accepted⟩
  refine ⟨value_tryTargets _ _ _ _, endPos_tryTargets _ _ _ _, ?_, nofun, rfl,
    ready.lists_status 0.0, ?_, ?_, fun entry _ => entry.fields_datum⟩
  · intro _ position listed
    exact (tracked position listed).of_sameRails same.symm
  · rw [same.axisSet]
    exact fun _ => homed
  · intro entry listed admitted slot _ configured
    exact spans_of_encloses sound (accepted entry listed admitted) 0.0 configured

theorem contained_of_unhomed {gantry : Gantry Float}
    (unhomed : ∀ slot, gantry.limits.get slot = Limit.unhomed) (printer : PrinterSection Float)
    (targets : List (Point Float)) :
    Contained gantry gantry printer false (Triplet.const 0.0) targets
      (reportFrom gantry printer (Triplet.const 0.0) targets) := by
  have origin : (Triplet.const 0.0 : Point Float).AtZero := by
    intro slot
    rw [Triplet.get_const]
    decide
  refine ⟨value_tryTargets _ _ _ _, endPos_tryTargets _ _ _ _, nofun,
    fun _ => atZero_of_track unhomed origin printer targets, rfl, gantry.lists_status 0.0, nofun,
    ?_, fun entry _ => entry.fields_datum⟩
  intro entry _ _ slot homed
  rw [unhomed slot, Limit.isHomed_unhomed] at homed
  cases homed

/-- Safety of a whole run.  A run that builds its gantry ends with a report, unless it
homes a machine whose targets do not fit into memory.  The report has one entry for
each target, in their order, tried from one tracked position after the other.  After
homing all these positions lie within the travel of the rails, and at zero where there
is none; without homing they are at zero, so that exactly the targets at zero are
accepted.  What is accepted ends within the published range of each configured homed slot,
which after homing is every configured one, and an entry shows an error exactly if its target
is not accepted. -/
theorem run_contained (machine : Machine Float) (configName : String) (home : Bool)
    (targets : List (Point Float)) (gantry : Gantry Float) (valid : machine.validate = .ok ())
    (built : (Gantry.build (.ofPrinter machine.printer) machine 0 none machine.kinematics.axes
      machine.kinematics.axisIndices).value.1 = .ok gantry)
    (ordered : ∀ slot axis given, gantry.axisSet.axisAt slot = some axis →
      machine.rail? axis.letter = some given →
      given.positionMin ≤ given.positionEndstop ∧ given.positionEndstop ≤ given.positionMax) :
    let outcome := (run machine configName home targets).value
    ((∃ report, outcome = .ok report) ↔ (home = true → gantry.axisCount < targetLimit)) ∧
    ∀ report, outcome = .ok report → ∃ ready start,
      (startingPoint home gantry).value = .ok (ready, start) ∧
        Contained gantry ready machine.printer home start targets report := by
  intro outcome
  have equipped := Gantry.equipped_of_build built
  have ran : outcome = _ := value_run machine configName home targets
  rw [prepared_of_build valid built] at ran
  cases home with
  | false =>
    have reported : outcome =
        .ok (reportFrom gantry machine.printer (Triplet.const 0.0) targets) := ran
    refine ⟨iff_of_true ⟨_, reported⟩ nofun, fun report same => ?_⟩
    rw [reported, Except.ok.injEq] at same
    subst same
    exact ⟨gantry, _, rfl, contained_of_unhomed (Gantry.limits_of_build built) _ targets⟩
  | true =>
    rw [startingPoint, if_pos rfl] at ran ⊢
    by_cases fits : gantry.axisCount < targetLimit
    · rcases exists_ready_of_homeAll equipped fits with
        ⟨ready, start, homed, same, keepsSound, exactly⟩
      have railsOrdered := rails_of_sections built ordered
      have enclosed := encloses_of_homesExactly equipped exactly railsOrdered
      have allHomed := isHomed_of_homesExactly exactly railsOrdered
      have reported : outcome = .ok (reportFrom ready machine.printer start targets) := by
        rw [ran, homed]
        rfl
      refine ⟨iff_of_true ⟨_, reported⟩ fun _ => fits, fun report sameReport => ?_⟩
      rw [reported, Except.ok.injEq] at sameReport
      subst sameReport
      have sound := keepsSound (Gantry.sound_of_build built)
      exact ⟨ready, start, homed, contained_of_homed sound same enclosed allHomed _ targets⟩
    · rcases homeAll_of_overflow equipped (indices_ne_nil_of_build built)
        (Nat.le_of_not_lt fits) with ⟨axis, -, ended⟩
      have stopped : outcome = .error (.homing (.noTargets axis gantry.axisCount)) := by
        rw [ran, ended]
        rfl
      refine ⟨iff_of_false ?_ fun needed => fits (needed rfl), fun report same => ?_⟩
      · rintro ⟨report, same⟩
        cases stopped.symm.trans same
      · cases stopped.symm.trans same

/-- A run with a target outside the travel of the second rail. -/
theorem run_contained_benchtop :
    let targets : List (Point Float) := [⟨10.0, 20.0, 5.0⟩, ⟨10.0, 300.0, 5.0⟩, ⟨0.0, 0.0, 0.0⟩]
    ∃ report ready start,
      (run .benchtop "machine.toml" true targets).value = .ok report ∧
        Contained .benchtop ready Machine.benchtop.printer true start targets report := by
  intro targets
  have ordered (slot : Slot) (axis : Axis) (given : RailSection Float)
      (configured : Gantry.benchtop.axisSet.axisAt slot = some axis)
      (found : Machine.benchtop.rail? axis.letter = some given) :
      given.positionMin ≤ given.positionEndstop ∧ given.positionEndstop ≤ given.positionMax := by
    rcases (Gantry.holds_of_build build_benchtop slot).exists_rail configured with
      ⟨other, rail, foundOther, held, made⟩
    rw [found, Option.some.injEq] at foundOther
    rcases Session.measures_benchtop held with ⟨low, high, endstop⟩
    rw [foundOther, ← made.positionMin, ← made.positionMax, ← made.positionEndstop, low, high,
      endstop]
    decide
  rcases run_contained .benchtop "machine.toml" true targets .benchtop Session.validate_benchtop
    build_benchtop ordered with ⟨reports, contained⟩
  rcases reports.mpr fun _ => by decide with ⟨report, same⟩
  rcases contained report same with ⟨ready, start, -, holds⟩
  exact ⟨report, ready, start, same, holds⟩

end Program

end BeltGantry

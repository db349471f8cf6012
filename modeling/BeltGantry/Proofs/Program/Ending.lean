import BeltGantry.Proofs.Program.Containment
import BeltGantry.Proofs.Session.Homing
namespace BeltGantry

/-!
# How a run ends

A run may end without a report when it is set up: the machine file is refused, or the
gantry cannot be built.  Nothing that comes later is refused.  The axes to be homed are
those of the gantry, so each is known; no endstop is silent; and what homing records is
a part of the request, so the position that results can be set.  The checks of targets
go into the report whatever they come to.

One ending is left over, which is no refusal.  A machine may carry so many axes that
the targets of homing do not fit into memory, and there homing ends the program.
-/

namespace Gantry

/-- The slots with a rail that has the ends of its travel the right way round. -/
def passableSlots {α : Type} [Scalar α] (gantry : Gantry α) : List Slot :=
  Slot.all.filter fun slot =>
    (gantry.rails.get slot).any fun rail => rail.positionMin ≤ rail.positionMax

variable {α : Type} [Scalar α] {gantry ready : Gantry α} {start : Point α}

theorem axisCount_of_build {toolhead : Toolhead α} {machine : Machine α} {number : Nat}
    {queue : Option MotionQueue} {letters : String} {indices : List Nat}
    (built : (build toolhead machine number queue letters indices).value.1 = .ok gantry) :
    gantry.axisCount = toolhead.axisCount := by
  rcases stages_of_build built with ⟨set, assembly, caps, -, -, -, rfl⟩
  rfl

/-- With all axes homed, the letters of exactly the passable slots are published. -/
theorem homedAxes_of_homesExactly (equipped : gantry.Equipped) (same : gantry.SameRails ready)
    (exactly : gantry.HomesExactly ready start gantry.axisSet.indices) :
    ready.homedAxes = String.ofList (gantry.passableSlots.map Slot.letter) := by
  unfold homedAxes Limits.homedSlots passableSlots
  rw [List.filter_filter]
  congr 2
  apply List.filter_congr
  intro slot _
  rw [same.axisSet]
  have fitted := equipped.fitted slot
  unfold railRange? at fitted
  cases held : gantry.rails.get slot with
  | none =>
    rw [held] at fitted
    rw [← fitted]
    rfl
  | some rail =>
    rw [held] at fitted
    have configured := (exists_rail_iff_of_fitted (equipped.fitted slot)).mp ⟨rail, held⟩
    have listed := gantry.axisSet.globalIndex_mem_indices_iff.mpr configured
    rcases exactly.homed slot listed with ⟨other, otherHeld, limit, -⟩
    rw [held, Option.some.injEq] at otherHeld
    subst otherHeld
    rw [← fitted, limit]
    rfl

theorem homedAxes_of_unhomed {gantry : Gantry Float}
    (unhomed : ∀ slot, gantry.limits.get slot = Limit.unhomed) : gantry.homedAxes = "" := by
  have none : gantry.limits.homedSlots = [] := by
    refine List.filter_eq_nil_iff.mpr fun slot _ => ?_
    rw [unhomed slot, Limit.isHomed_unhomed]
    exact Bool.false_ne_true
  unfold homedAxes
  rw [none]
  rfl

/-- Homing all axes succeeds, or it meets a machine whose targets do not fit into memory
and ends the program at the first axis, with nothing recorded. -/
theorem Equipped.home_indices (equipped : gantry.Equipped)
    (configured : gantry.axisSet.indices ≠ []) :
    let new : SimulatedHoming α := ⟨gantry.axisSet.indices, none, [], []⟩
    (gantry.home SimulatedHoming.host new).value.1 = .ok () ∨
      ∃ axis, gantry.axisSet.indices.head? = some axis ∧
        (gantry.home SimulatedHoming.host new).value =
          (.error (.homing (.noTargets axis gantry.axisCount)), new) := by
  intro new
  have known : ∀ axis ∈ gantry.axisSet.indices, gantry.axisSet.slotOf axis ≠ none :=
    fun axis => gantry.axisSet.slotOf_ne_none
  by_cases fits : gantry.axisCount < targetLimit
  · exact .inl (equipped.result_home known fits)
  · exact .inr (equipped.home_of_overflow SimulatedHoming.host new configured known
      (Nat.le_of_not_lt fits))

end Gantry

namespace Program

section

variable {α : Type} [Scalar α] {gantry : Gantry α}

/-- The start of a run with a built gantry: the origin without homing, and with homing
the endstops, unless homing ends the program. -/
theorem startingPoint_cases (equipped : gantry.Equipped)
    (configured : gantry.axisSet.indices ≠ []) (home : Bool) :
    (home = false ∧ (startingPoint home gantry).value = .ok (gantry, Triplet.const 0.0)) ∨
    (home = true ∧ gantry.axisCount < targetLimit ∧ ∃ ready start,
      (startingPoint home gantry).value = .ok (ready, start) ∧ gantry.SameRails ready ∧
        gantry.HomesExactly ready start gantry.axisSet.indices) ∨
    (home = true ∧ targetLimit ≤ gantry.axisCount ∧ ∃ axis,
      gantry.axisSet.indices.head? = some axis ∧ (startingPoint home gantry).value =
        .error (.homing (.noTargets axis gantry.axisCount))) := by
  cases home with
  | false => exact .inl ⟨rfl, rfl⟩
  | true =>
    rw [startingPoint, if_pos rfl]
    by_cases fits : gantry.axisCount < targetLimit
    · rcases exists_ready_of_homeAll equipped fits with ⟨ready, start, homed, same, -, exactly⟩
      exact .inr (.inl ⟨rfl, fits, ready, start, homed, same, exactly⟩)
    · have unfit := Nat.le_of_not_lt fits
      exact .inr (.inr ⟨rfl, unfit, homeAll_of_overflow equipped configured unfit⟩)

/-- What keeps a run from its starting point is the fault of homing. -/
theorem home_of_startingPoint (equipped : gantry.Equipped) {home : Bool} {fault : Fault α}
    (failed : (startingPoint home gantry).value = .error fault) :
    home = true ∧ (gantry.home SimulatedHoming.host
      ⟨gantry.axisSet.indices, none, [], []⟩).value.1 = .error fault := by
  rcases equipped.homesExactly gantry.axisSet.indices none with ⟨-, applied, -⟩
  cases home with
  | false => cases failed
  | true =>
    rw [startingPoint, if_pos rfl, value_homeAll] at failed
    dsimp only at failed
    cases answered : (gantry.home SimulatedHoming.host
        ⟨gantry.axisSet.indices, none, [], []⟩).value.1 with
    | error other =>
      rw [answered] at failed
      cases failed
      exact ⟨rfl, rfl⟩
    | ok _ =>
      rw [answered] at failed
      dsimp only at failed
      rw [applied] at failed
      cases failed

/-- A run can be prepared exactly if its machine file is accepted, its gantry can be
built, and targets fit into memory if it homes. -/
theorem exists_prepared_iff (machine : Machine α) (home : Bool) :
    (∃ outcome, prepared machine home = .ok outcome) ↔
      machine.validate = .ok () ∧
      (∃ gantry, (Gantry.build (.ofPrinter machine.printer) machine 0 none
        machine.kinematics.axes machine.kinematics.axisIndices).value.1 = .ok gantry) ∧
      (home = true → machine.printer.axisCount < targetLimit) := by
  cases valid : machine.validate with
  | error cause =>
    rw [prepared_of_invalid valid]
    constructor
    · rintro ⟨outcome, same⟩
      cases same
    · rintro ⟨accepted, -⟩
      cases accepted
  | ok _ =>
    cases built : (Gantry.build (.ofPrinter machine.printer) machine 0 none
        machine.kinematics.axes machine.kinematics.axisIndices).value.1 with
    | error fault =>
      rw [prepared_of_unbuilt valid built]
      constructor
      · rintro ⟨outcome, same⟩
        cases same
      · rintro ⟨-, ⟨gantry, succeeded⟩, -⟩
        cases succeeded
    | ok gantry =>
      have count : gantry.axisCount = machine.printer.axisCount := Gantry.axisCount_of_build built
      rw [prepared_of_build valid built]
      rcases startingPoint_cases (Gantry.equipped_of_build built)
        (indices_ne_nil_of_build built) home with
        ⟨rfl, same⟩ | ⟨rfl, fits, ready, start, same, -⟩ | ⟨rfl, unfit, axis, -, same⟩
      · exact iff_of_true ⟨_, same⟩ ⟨rfl, ⟨gantry, rfl⟩, nofun⟩
      · rw [count] at fits
        exact iff_of_true ⟨_, same⟩ ⟨rfl, ⟨gantry, rfl⟩, fun _ => fits⟩
      · rw [count] at unfit
        refine iff_of_false ?_ fun ⟨_, _, fits⟩ => Nat.not_lt_of_le unfit (fits rfl)
        rintro ⟨outcome, succeeded⟩
        cases same.symm.trans succeeded

variable [SquareRoot α] (configName : String) (targets : List (Point α))

theorem run_of_unprepared {machine : Machine α} {home : Bool} {fault : Fault α}
    (stopped : prepared machine home = .error fault) :
    (run machine configName home targets).value = .error fault := by
  rw [value_run, stopped]
  rfl

theorem run_of_prepared {machine : Machine α} {home : Bool} {ready : Gantry α} {start : Point α}
    (begun : prepared machine home = .ok (ready, start)) :
    (run machine configName home targets).value = .ok
      { status := (ready.status 0.0).value
        moves := (tryTargets ready machine.printer targets start).value } := by
  rw [value_run, begun]
  rfl

theorem exists_report_iff (machine : Machine α) (home : Bool) :
    (∃ report, (run machine configName home targets).value = .ok report) ↔
      ∃ outcome, prepared machine home = .ok outcome := by
  cases begun : prepared machine home with
  | error fault =>
    rw [run_of_unprepared configName targets begun]
    constructor <;> rintro ⟨_, same⟩ <;> cases same
  | ok outcome => exact iff_of_true ⟨_, run_of_prepared configName targets begun⟩ ⟨_, rfl⟩

end

/-- The outcome of a run with a built gantry: a report, or the fault that kept it from its
starting point. -/
theorem run_cases {machine : Machine Float} {gantry : Gantry Float} (configName : String)
    (home : Bool) (targets : List (Point Float)) (valid : machine.validate = .ok ())
    (built : (Gantry.build (.ofPrinter machine.printer) machine 0 none machine.kinematics.axes
      machine.kinematics.axisIndices).value.1 = .ok gantry) :
    let outcome := (run machine configName home targets).value
    (∃ fault, outcome = .error fault ∧ (startingPoint home gantry).value = .error fault) ∨
      ∃ report, outcome = .ok report ∧ report.status.homedAxes =
        if home then String.ofList (gantry.passableSlots.map Slot.letter) else "" := by
  intro outcome
  have equipped := Gantry.equipped_of_build built
  have begun := prepared_of_build valid built home
  rcases startingPoint_cases equipped (indices_ne_nil_of_build built) home with
    ⟨rfl, same⟩ | ⟨rfl, -, ready, start, same, sameRails, exactly⟩ | ⟨-, -, axis, -, same⟩
  · have unhomed := Gantry.homedAxes_of_unhomed (Gantry.limits_of_build built)
    exact .inr ⟨_, run_of_prepared configName targets (begun.trans same), unhomed⟩
  · have homed := Gantry.homedAxes_of_homesExactly equipped sameRails exactly
    exact .inr ⟨_, run_of_prepared configName targets (begun.trans same), homed⟩
  · exact .inl ⟨_, run_of_unprepared configName targets (begun.trans same), same⟩

/-- A run is refused only when it is set up: when its machine file is not accepted, or
when its gantry cannot be built.  Otherwise homing all axes is never refused, nor is the
position that results, and the run ends with a report, unless it homes a machine whose
targets do not fit into memory.  That ends the program at the first axis to be homed, with
nothing recorded.  The report publishes as homed exactly the slots of rails whose travel
has its ends the right way round if the run homes, and none if it does not. -/
theorem run_refused_only_in_setup (machine : Machine Float) (configName : String) (home : Bool)
    (targets : List (Point Float)) :
    let outcome := (run machine configName home targets).value
    let built := (Gantry.build (.ofPrinter machine.printer) machine 0 none
      machine.kinematics.axes machine.kinematics.axisIndices).value.1
    ((∃ report, outcome = .ok report) ↔ machine.validate = .ok () ∧
      (∃ gantry, built = .ok gantry) ∧ (home = true → machine.printer.axisCount < targetLimit)) ∧
    (∀ cause, machine.validate = .error cause → outcome = .error (.config (.invalid cause))) ∧
    (∀ fault, machine.validate = .ok () → built = .error fault → outcome = .error fault) ∧
    ∀ gantry, machine.validate = .ok () → built = .ok gantry →
      let new : SimulatedHoming Float := ⟨gantry.axisSet.indices, none, [], []⟩
      let homed := (gantry.home SimulatedHoming.host new).value
      let position := homed.2.finalPosition gantry.axisSet.triplet
      (∀ fault, homed.1 = .error fault → fault.isFatal = true ∧ homed.2 = new ∧
        ∃ axis, gantry.axisSet.indices.head? = some axis ∧
          fault = .homing (.noTargets axis gantry.axisCount)) ∧
      (gantry.setPosition position homed.2.homedAxes).value.1 = .ok () ∧
      (∀ fault, outcome = .error fault →
        fault.isFatal = true ∧ home = true ∧ homed.1 = .error fault) ∧
      ∀ report, outcome = .ok report → report.status.homedAxes =
        if home then String.ofList (gantry.passableSlots.map Slot.letter) else "" := by
  intro outcome built
  refine ⟨?_, ?_, ?_, ?_⟩
  · exact (exists_report_iff configName targets machine home).trans
      (exists_prepared_iff machine home)
  · exact fun cause refused => run_of_unprepared configName targets (prepared_of_invalid refused home)
  · exact fun fault valid failed =>
      run_of_unprepared configName targets (prepared_of_unbuilt valid failed home)
  · intro gantry valid succeeded new homed position
    have equipped := Gantry.equipped_of_build succeeded
    have configured := indices_ne_nil_of_build succeeded
    rcases equipped.homesExactly gantry.axisSet.indices none with ⟨-, applied, -⟩
    have fatal : ∀ fault, homed.1 = .error fault → fault.isFatal = true ∧ homed.2 = new ∧
        ∃ axis, gantry.axisSet.indices.head? = some axis ∧
          fault = .homing (.noTargets axis gantry.axisCount) := by
      intro fault failed
      rcases equipped.home_indices configured with answered | ⟨axis, first, ended⟩
      · cases answered.symm.trans failed
      · have same : homed = _ := ended
        rw [same] at failed ⊢
        cases failed
        exact ⟨rfl, rfl, axis, first, rfl⟩
    refine ⟨fatal, applied, ?_⟩
    rcases run_cases configName home targets valid succeeded with
      ⟨fault, ended, unstarted⟩ | ⟨report, ended, homedAxes⟩
    · refine ⟨fun other failed => ?_, fun report reported => ?_⟩
      · cases ended.symm.trans failed
        rcases home_of_startingPoint equipped unstarted with ⟨homes, answered⟩
        exact ⟨(fatal fault answered).1, homes, answered⟩
      · cases ended.symm.trans reported
    · refine ⟨fun other failed => ?_, fun other reported => ?_⟩
      · cases ended.symm.trans failed
      · cases ended.symm.trans reported
        exact homedAxes

theorem run_refused_only_in_setup_benchtop :
    Machine.benchtop.validate = .ok () ∧
    (Gantry.build .benchtop .benchtop 0 none "XYZ" [0, 1, 2]).value.1 = .ok Gantry.benchtop ∧
    ∃ report, (run .benchtop "machine.toml" true []).value = .ok report ∧
      report.status.homedAxes = "xyz" := by
  rcases run_refused_only_in_setup .benchtop "machine.toml" true [] with ⟨reports, -, -, later⟩
  have fits : Machine.benchtop.printer.axisCount < targetLimit := by decide
  rcases reports.mpr ⟨Session.validate_benchtop, ⟨_, build_benchtop⟩, fun _ => fits⟩ with
    ⟨report, ended⟩
  rcases later _ Session.validate_benchtop build_benchtop with ⟨-, -, -, publishes⟩
  have letters : String.ofList (Gantry.benchtop.passableSlots.map Slot.letter) = "xyz" := by
    decide
  exact ⟨Session.validate_benchtop, build_benchtop, report, ended,
    (publishes report ended).trans letters⟩

/-- A run that homes may fail to end with a report although it was set up. -/
theorem exists_run_without_report :
    ¬ ∀ (machine : Machine Float) (configName : String) (home : Bool)
      (targets : List (Point Float)),
      (∃ report, (run machine configName home targets).value = .ok report) ↔
        machine.validate = .ok () ∧
        ∃ gantry, (Gantry.build (.ofPrinter machine.printer) machine 0 none
          machine.kinematics.axes machine.kinematics.axisIndices).value.1 = .ok gantry := by
  intro ends
  have valid : Machine.vast.validate = .ok () := eq_ok_of_toOption (by decide)
  have present : (Gantry.build (.ofPrinter Machine.vast.printer) .vast 0 none "XYZ"
      [0, 1, 2]).value.1.toOption.isSome = true := by
    decide
  have built := eq_ok_of_toOption (Option.some_get present).symm
  have reports := (ends .vast "machine.toml" true []).mpr ⟨valid, _, built⟩
  rw [exists_report_iff, exists_prepared_iff] at reports
  have unfit : ¬ Machine.vast.printer.axisCount < targetLimit := by
    decide
  exact unfit (reports.2.2 rfl)

end Program

end BeltGantry

import BeltGantry.Proofs.Gantry.Equipment
import BeltGantry.Proofs.Session.History
namespace BeltGantry.Session

/-!
# Homing in a session

Every gantry of a session is equipped, whatever was asked before, so homing it
keeps within bounds and comes to a position that can be set.  The one thing that
ends a run instead is the size of the machine: targets are vectors over all its
axes, and from `targetLimit` axes on no such vector fits into memory.
-/

variable {α : Type} [Scalar α]

theorem equipped_run {toolhead : Toolhead α} {requests : List (Request α)} {number : Nat}
    {gantry : Gantry α} (held : gantry? ((start toolhead).run requests) number = some gantry) :
    gantry.Equipped := by
  refine forall_gantry?_run ?_ ?_ ?_ held
  · intro toolhead machine number queue letters indices built succeeded
    exact Gantry.equipped_of_build succeeded
  · intro before operation equipped
    exact equipped.perform operation
  · intro before time equipped
    exact equipped.motorsOff time

/-- No index leaves its vector.  The axes of every plan are axes of the machine, so
their targets are written in bounds, for every call that a host sees; and the
position that a simulated host ends at is read in bounds for any three numbers,
however many homings it went through before. -/
theorem homing_inBounds (toolhead : Toolhead α) (requests : List (Request α)) (number : Nat)
    (gantry : Gantry α) (held : gantry? ((start toolhead).run requests) number = some gantry) :
    (∀ wanted steps, Homing.plan gantry.axisSet gantry.rails wanted = .ok steps →
      ∀ step ∈ steps, step.1 < gantry.axisCount ∧
        (HomingMove.ofRail step.1 step.2 gantry.axisCount).InBounds) ∧
    (∀ (σ : Type) (host : HomingHost α σ) (state : σ),
      ∀ call ∈ Homing.callsSeen host gantry.axisCount gantry.axisSet gantry.rails state,
        call.move.axis < gantry.axisCount ∧ call.move.InBounds) ∧
    ∀ homing : SimulatedHoming α, (∀ move ∈ homing.moves, move.InBounds) →
      let after := (gantry.home SimulatedHoming.host homing).value.2
      (∀ move ∈ after.moves, move.InBounds) ∧
        ∀ triplet, after.finalPosition? triplet = some (after.finalPosition triplet) := by
  have equipped := equipped_run held
  refine ⟨?_, ?_, ?_⟩
  · intro wanted steps planned step listed
    have inside := equipped.inside_of_plan planned step listed
    exact ⟨inside, HomingMove.inBounds_ofRail inside step.2⟩
  · intro σ host state
    exact equipped.inBounds_of_callsSeen host state
  · intro homing before after
    have inBounds := equipped.inBounds_home before
    exact ⟨inBounds, SimulatedHoming.finalPosition?_eq_some inBounds⟩

theorem homing_inBounds_forgettingThird :
    ∃ gantry, gantry? ((start .benchtop).run forgettingThird) 0 = some gantry ∧
      (∀ call ∈ Homing.callsSeen SimulatedHoming.host gantry.axisCount gantry.axisSet
          gantry.rails ⟨[2, 0, 2], none, [], []⟩, call.move.InBounds) ∧
      let after := (gantry.home SimulatedHoming.host ⟨[2, 0, 2], none, [], []⟩).value.2
      after.finalPosition? ⟨7, 2, 0⟩ = some (after.finalPosition ⟨7, 2, 0⟩) := by
  have held := (Option.some_get isSome_forgettingThird).symm
  have bounds := homing_inBounds .benchtop forgettingThird 0 _ held
  refine ⟨_, held, fun call seen => ?_, ?_⟩
  · exact (bounds.2.1 _ SimulatedHoming.host ⟨[2, 0, 2], none, [], []⟩ call seen).2
  · exact (bounds.2.2 ⟨[2, 0, 2], none, [], []⟩ nofun).2 ⟨7, 2, 0⟩

/-- Homing with a new simulated host, and setting the position that results.  This
fails only by ending the program, which happens exactly if a request of configured axes
meets a machine with more axes than a vector of targets can have.  Then nothing was
recorded, and nothing is set: the gantry is left as it was.  Otherwise the position is
set whatever homing answered, and it homes exactly the recorded axes: none of a request
with an axis that is not configured, and those before the silent one of any other. -/
theorem homeSimulated_applies (toolhead : Toolhead α) (requests : List (Request α))
    (number : Nat) (gantry : Gantry α)
    (held : gantry? ((start toolhead).run requests) number = some gantry)
    (wanted : List Nat) (silent : Option Nat) :
    let outcome := (gantry.homeSimulated ⟨wanted, silent, [], []⟩ true).value
    let report := outcome.1
    let recorded := report.homing.homedAxes
    let overflows := wanted ≠ [] ∧ (∀ axis ∈ wanted, gantry.axisSet.slotOf axis ≠ none) ∧
      targetLimit ≤ gantry.axisCount
    ((∃ fault, report.result = .error fault ∧ fault.isFatal = true) ↔ overflows) ∧
    (overflows →
      report.homing = ⟨wanted, silent, [], []⟩ ∧ recorded = [] ∧ report.applied = none ∧
      outcome.2 = gantry) ∧
    (¬ overflows →
      report.applied = some (.ok ()) ∧
      ((∃ axis ∈ wanted, gantry.axisSet.slotOf axis = none) → recorded = []) ∧
      ((∀ axis ∈ wanted, gantry.axisSet.slotOf axis ≠ none) →
        recorded = wanted.takeWhile fun axis => silent ≠ some axis) ∧
      gantry.HomesExactly outcome.2 report.finalPosition recorded) := by
  intro outcome report recorded overflows
  have equipped := equipped_run held
  have fatal := equipped.isFatal_home_iff wanted silent
  have performed : outcome = _ := gantry.value_homeSimulated ⟨wanted, silent, [], []⟩ true
  refine ⟨?_, fun overflowing => ?_, fun calm => ?_⟩
  · have result : report.result = _ := (gantry.report_homeSimulated _ true).1
    rwa [result]
  · rcases equipped.home_of_overflow SimulatedHoming.host ⟨wanted, silent, [], []⟩ overflowing.1
      overflowing.2.1 overflowing.2.2 with ⟨axis, -, ended⟩
    rw [ended] at performed
    simp only [recorded, report, performed]
    exact ⟨rfl, rfl, rfl, rfl⟩
  · have goesOn : Fault.endsProgram (gantry.home SimulatedHoming.host
        ⟨wanted, silent, [], []⟩).value.1 = false := by
      rw [← Bool.not_eq_true, Fault.endsProgram_eq_true_iff, fatal]
      exact calm
    simp only [goesOn, Bool.not_false, Bool.and_true, if_true] at performed
    simp only [recorded, report, performed]
    rcases equipped.homesExactly wanted silent with ⟨recordable, succeeded, exactly⟩
    rw [← recordable] at exactly
    rw [succeeded]
    refine ⟨rfl, ?_, ?_, exactly⟩ <;> rw [recordable, Gantry.recordable]
    · rintro ⟨axis, listed, foreign⟩
      exact if_neg fun both => both.1 axis listed foreign
    · intro known
      by_cases fits : gantry.axisCount < targetLimit
      · exact if_pos ⟨known, fits⟩
      · -- Without an overflow there is nothing to record.
        have nothing : wanted = [] := by
          by_contra something
          exact calm ⟨something, known, Nat.le_of_not_lt fits⟩
        rw [nothing, if_neg fun both => fits both.2]
        rfl

theorem homeSimulated_applies_forgettingThird :
    ∃ gantry, gantry? ((start .benchtop).run forgettingThird) 0 = some gantry ∧
      let outcome := (gantry.homeSimulated ⟨[2, 0, 1], some 0, [], []⟩ true).value
      outcome.1.applied = some (.ok ()) ∧ outcome.1.homing.homedAxes = [2] ∧
        gantry.HomesExactly outcome.2 outcome.1.finalPosition [2] := by
  have held := (Option.some_get isSome_forgettingThird).symm
  refine ⟨_, held, ?_⟩
  rcases homeSimulated_applies .benchtop forgettingThird 0 _ held [2, 0, 1] (some 0) with
    ⟨-, -, applies⟩
  have known : ∀ axis ∈ [2, 0, 1], AxisSet.slotOf
      (Option.get _ isSome_forgettingThird).axisSet axis ≠ none := by
    decide
  have fits : (Option.get _ isSome_forgettingThird).axisCount < targetLimit := by
    decide
  rcases applies fun overflows => Nat.not_le_of_lt fits overflows.2.2 with
    ⟨applied, -, recorded, exactly⟩
  have second : SimulatedHoming.homedAxes _ = [2] := recorded known
  rw [second] at exactly
  exact ⟨applied, second, exactly⟩

end BeltGantry.Session

namespace BeltGantry

/-- A machine with more axes than a vector of targets can have. -/
def Machine.vast : Machine Float :=
  { Machine.benchtop with
    printer := { maxVelocity := 300.0, maxAccel := 3000.0, axisCount := Nat.pow 2 60 } }

namespace Session

theorem isSome_vast :
    (Session.gantry? ((start (.ofPrinter Machine.vast.printer)).run
      [.build .vast "XYZ" [0, 1, 2] none]) 0).isSome = true := by
  decide

/-- Homing may fail to end with an answer: a machine that carries too many axes ends
the run at the first one, where a silent axis would be reported otherwise. -/
theorem exists_homing_without_answer :
    ¬ ∀ (toolhead : Toolhead Float) (requests : List (Request Float)) (number : Nat)
      (gantry : Gantry Float),
      gantry? ((start toolhead).run requests) number = some gantry →
      ∀ (wanted : List Nat) (silent : Option Nat),
        let report := (gantry.homeSimulated ⟨wanted, silent, [], []⟩ true).value.1
        (∀ fault, report.result = .error fault → fault.isFatal = false) ∧
        report.applied = some (.ok ()) ∧
        ((∀ axis ∈ wanted, gantry.axisSet.slotOf axis ≠ none) →
          report.homing.homedAxes = wanted.takeWhile fun axis => silent ≠ some axis) := by
  intro answered
  have held := (Option.some_get isSome_vast).symm
  have equipped := equipped_run held
  have known : ∀ axis ∈ [0], AxisSet.slotOf (Option.get _ isSome_vast).axisSet axis ≠ none := by
    decide
  have unfit : targetLimit ≤ (Option.get _ isSome_vast).axisCount := by
    decide
  rcases (equipped.isFatal_home_iff [0] (some 0)).mpr ⟨List.cons_ne_nil _ _, known, unfit⟩ with
    ⟨fault, ended, fatal⟩
  have result := (Gantry.report_homeSimulated (Option.get _ isSome_vast)
    ⟨[0], some 0, [], []⟩ true).1
  have calm := (answered _ _ 0 _ held [0] (some 0)).1 fault (result.trans ended)
  rw [fatal] at calm
  cases calm

end Session

end BeltGantry

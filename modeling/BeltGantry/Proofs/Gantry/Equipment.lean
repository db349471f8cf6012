import BeltGantry.Proofs.Gantry.Invariant
import BeltGantry.Proofs.Homing.Simulated
namespace BeltGantry

/-!
# Homing an equipped gantry

A gantry has a rail in every slot with an axis, and its machine carries all three
axes of the triplet.  Building checks both and nothing undoes them, direct writes
of limits included, which is less than what a sound gantry keeps to.

It is enough for homing.  The axes with rails are the configured ones, and each
of them lies within the vectors of targets.  A simulated homing therefore records
a part of the request, with rails of the gantry; and since the recorded axes are
configured, the position that results can be set.
-/

variable {α : Type}

theorem AxisSet.get_triplet (set : AxisSet) (slot : Slot) :
    set.triplet.get slot = set.globalIndex slot :=
  Triplet.get_ofSlots _ slot

theorem AxisSet.distinct_triplet (set : AxisSet) (first second : Slot)
    (same : set.triplet.get first = set.triplet.get second) : first = second := by
  rw [get_triplet, get_triplet] at same
  exact set.globalIndex_injective same

namespace Gantry

/-- Every axis of a gantry has a rail, and its machine carries the whole triplet. -/
structure Equipped (gantry : Gantry α) : Prop where
  fitted : ∀ slot, (gantry.railRange? slot).isSome = !gantry.axisSet.isDummy slot
  carried : tripletSize * (gantry.axisSet.number + 1) ≤ gantry.axisCount

theorem Equipped.of_sameRails {before after : Gantry α} (equipped : before.Equipped)
    (same : before.SameRails after) (sameCount : after.axisCount = before.axisCount) :
    after.Equipped where
  fitted := by
    intro slot
    rw [same.railRange? slot, same.axisSet]
    exact equipped.fitted slot
  carried := by
    rw [same.axisSet, sameCount]
    exact equipped.carried

/-! ## Axes and rails -/

section

variable {gantry : Gantry α}

theorem Equipped.globalIndex_lt (equipped : gantry.Equipped) (slot : Slot) :
    gantry.axisSet.globalIndex slot < gantry.axisCount := by
  have carried := equipped.carried
  have inside := slot.index_lt
  unfold AxisSet.globalIndex
  unfold tripletSize at carried ⊢
  omega

/-- An axis with a rail lies within vectors over all axes of the machine. -/
theorem Equipped.lt_of_railOf? (equipped : gantry.Equipped) {axis : Nat} {rail : Rail α}
    (found : Homing.railOf? gantry.axisSet gantry.rails axis = some rail) :
    axis < gantry.axisCount := by
  rcases Homing.railOf?_eq_some_iff.mp found with ⟨slot, atSlot, -⟩
  rw [← (gantry.axisSet.slotOf_eq_some_iff.mp atSlot).2]
  exact equipped.globalIndex_lt slot

/-- The rail of the axis of a slot is the rail in the slot. -/
theorem get_of_railOf? {slot : Slot} {rail : Rail α}
    (found : Homing.railOf? gantry.axisSet gantry.rails (gantry.axisSet.globalIndex slot) =
      some rail) : gantry.rails.get slot = some rail := by
  rcases Homing.railOf?_eq_some_iff.mp found with ⟨other, atOther, held⟩
  have same := (gantry.axisSet.slotOf_eq_some_iff.mp atOther).2
  rwa [gantry.axisSet.globalIndex_injective same] at held

/-- The axes without rails are those that are not configured. -/
theorem Equipped.railOf?_eq_none_iff (equipped : gantry.Equipped) {axis : Nat} :
    Homing.railOf? gantry.axisSet gantry.rails axis = none ↔
      gantry.axisSet.slotOf axis = none := by
  unfold Homing.railOf?
  cases configured : gantry.axisSet.slotOf axis with
  | none => exact iff_of_true rfl rfl
  | some slot =>
    have fitted := equipped.fitted slot
    rw [(gantry.axisSet.slotOf_eq_some_iff.mp configured).1, railRange?, Option.isSome_map,
      Bool.not_false, Option.isSome_iff_ne_none] at fitted
    exact iff_of_false fitted (Option.some_ne_none slot)

theorem Equipped.inside_of_plan (equipped : gantry.Equipped) {wanted : List Nat}
    {steps : List (Nat × Rail α)}
    (planned : Homing.plan gantry.axisSet gantry.rails wanted = .ok steps) :
    ∀ step ∈ steps, step.1 < gantry.axisCount := by
  intro step listed
  exact equipped.lt_of_railOf? ((Homing.bound_of_plan planned).2 step listed)

theorem Equipped.not_knows_of_plan (equipped : gantry.Equipped) {wanted : List Nat}
    {fault : HomingFault}
    (unplanned : Homing.plan gantry.axisSet gantry.rails wanted = .error fault) :
    ¬ ∀ axis ∈ wanted, gantry.axisSet.slotOf axis ≠ none := by
  intro known
  rcases Homing.exists_unknown_of_plan unplanned with ⟨axis, listed, foreign, -⟩
  exact known axis listed (equipped.railOf?_eq_none_iff.mp foreign)

/-- Axes that are bound to rails are configured. -/
theorem knows_of_bound {steps : List (Nat × Rail α)}
    (bound : ∀ step ∈ steps, Homing.railOf? gantry.axisSet gantry.rails step.1 = some step.2) :
    ∀ axis ∈ steps.map Prod.fst, gantry.axisSet.slotOf axis ≠ none := by
  intro axis listed
  rcases List.mem_map.mp listed with ⟨step, stepListed, rfl⟩
  exact Homing.slotOf_ne_none_of_railOf? (bound step stepListed)

theorem knows_of_plan {wanted : List Nat} {steps : List (Nat × Rail α)}
    (planned : Homing.plan gantry.axisSet gantry.rails wanted = .ok steps) :
    ∀ axis ∈ wanted, gantry.axisSet.slotOf axis ≠ none := by
  rcases Homing.bound_of_plan planned with ⟨axes, bound⟩
  rw [← axes]
  exact knows_of_bound bound

theorem exists_slotsOf {axes : List Nat}
    (known : ∀ axis ∈ axes, gantry.axisSet.slotOf axis ≠ none) :
    ∃ slots, gantry.slotsOf axes = .ok slots := by
  rw [slotsOf_eq_mapM, exists_mapM_iff]
  intro axis listed
  rcases Option.ne_none_iff_exists'.mp (known axis listed) with ⟨slot, found⟩
  exact ⟨slot, gantry.slotOf_eq_ok_iff.mpr found⟩

end

/-! ## Equipment lasts -/

variable [Scalar α]

theorem carried_of_make {toolhead : Toolhead α} {machine : Machine α} {number : Nat}
    {queue : Option MotionQueue} {set : AxisSet} {assembly : Assembly α}
    (made : Assembly.make toolhead machine number queue set = .ok assembly) :
    tripletSize * (set.number + 1) ≤ toolhead.axisCount := by
  unfold Assembly.make at made
  rcases exists_of_bind_eq_ok made with ⟨_, checked, -⟩
  by_cases few : toolhead.axisCount < tripletSize * (set.number + 1)
  · simp [Assembly.checkAxisCount, few] at checked
  · exact Nat.le_of_not_lt few

theorem equipped_of_build {toolhead : Toolhead α} {machine : Machine α} {number : Nat}
    {queue : Option MotionQueue} {letters : String} {indices : List Nat} {gantry : Gantry α}
    (built : (build toolhead machine number queue letters indices).value.1 = .ok gantry) :
    gantry.Equipped where
  fitted := (sound_of_build built).fitted
  carried := by
    rcases stages_of_build built with ⟨set, assembly, caps, -, made, -, same⟩
    rw [same]
    exact carried_of_make made

theorem axisCount_setPosition (gantry : Gantry α) (position : Point α) (axes : List Nat) :
    (gantry.setPosition position axes).value.2.axisCount = gantry.axisCount := by
  rw [value_setPosition]
  cases gantry.slotsOf axes <;> rfl

theorem axisCount_perform (gantry : Gantry α) (operation : Operation α) :
    (gantry.perform operation).value.2.axisCount = gantry.axisCount := by
  cases operation with
  | setPosition position axes => exact gantry.axisCount_setPosition position axes
  | forgetAxis axis =>
    change (gantry.forgetAxis axis).value.2.axisCount = gantry.axisCount
    rw [value_forgetAxis]
    cases gantry.axisSet.slotOf axis <;> rfl
  | home homing apply =>
    rcases gantry.perform_home_cases homing apply with set | left
    · rw [set]
      exact gantry.axisCount_setPosition _ _
    · rw [left]
  | _ => rfl

variable {gantry : Gantry α}

theorem Equipped.perform (equipped : gantry.Equipped) (operation : Operation α) :
    (gantry.perform operation).value.2.Equipped :=
  equipped.of_sameRails (gantry.sameRails_perform operation) (gantry.axisCount_perform operation)

theorem Equipped.motorsOff (equipped : gantry.Equipped) (time : α) :
    (gantry.motorsOff time).value.Equipped :=
  equipped.of_sameRails (gantry.sameRails_withLimits _) rfl

/-! ## What a simulated homing records -/

/-- The axes of a request that a simulated homing records: none of a request with
an axis that is not configured, otherwise those before the silent one, where
targets fit into memory. -/
def recordable (gantry : Gantry α) (wanted : List Nat) (silent : Option Nat) : List Nat :=
  if (∀ axis ∈ wanted, gantry.axisSet.slotOf axis ≠ none) ∧ gantry.axisCount < targetLimit then
    wanted.takeWhile fun axis => silent ≠ some axis
  else []

theorem value_home_of_plan {σ : Type} (host : HomingHost α σ) (state : σ)
    {steps : List (Nat × Rail α)}
    (planned : Homing.plan gantry.axisSet gantry.rails (host.wanted state) = .ok steps) :
    (gantry.home host state).value =
      ((Homing.perform host gantry.axisCount steps state).value.1.mapError Fault.homing,
        (Homing.perform host gantry.axisCount steps state).value.2) := by
  unfold home
  rw [Noted.value_map, Homing.value_homeInOrder, planned]

theorem value_home_of_unplanned {σ : Type} (host : HomingHost α σ) (state : σ)
    {fault : HomingFault}
    (unplanned : Homing.plan gantry.axisSet gantry.rails (host.wanted state) = .error fault) :
    (gantry.home host state).value = (.error (.homing fault), state) := by
  unfold home
  rw [Noted.value_map, Homing.value_homeInOrder, unplanned]
  rfl

/-- Homing configured axes on a machine whose targets do not fit into memory gets no further
than the first of them, whoever performs the moves. -/
theorem Equipped.home_of_overflow (equipped : gantry.Equipped) {σ : Type} (host : HomingHost α σ)
    (state : σ) (something : host.wanted state ≠ [])
    (known : ∀ axis ∈ host.wanted state, gantry.axisSet.slotOf axis ≠ none)
    (unfit : targetLimit ≤ gantry.axisCount) :
    ∃ axis, (host.wanted state).head? = some axis ∧
      (gantry.home host state).value =
        (.error (.homing (.noTargets axis gantry.axisCount)), state) := by
  cases planned : Homing.plan gantry.axisSet gantry.rails (host.wanted state) with
  | error fault => exact absurd known (equipped.not_knows_of_plan planned)
  | ok steps =>
    have axes := (Homing.bound_of_plan planned).1
    cases steps with
    | nil => exact absurd axes.symm something
    | cons step rest =>
      refine ⟨step.1, axes ▸ rfl, ?_⟩
      rw [value_home_of_plan host state planned,
        Homing.value_perform_of_unfit host (Nat.not_lt_of_le unfit)]
      rfl

open SimulatedHoming in
/-- A simulated homing records the axes that can be, each with its rail. -/
theorem Equipped.exists_steps_of_home (equipped : gantry.Equipped)
    (homing : SimulatedHoming α) :
    ∃ steps : List (Nat × Rail α),
      (∀ step ∈ steps, Homing.railOf? gantry.axisSet gantry.rails step.1 = some step.2) ∧
      steps.map Prod.fst = gantry.recordable homing.wanted homing.silent ∧
      (gantry.home host homing).value.2 =
        homing.recording (steps.map (Homing.order gantry.axisCount)) := by
  unfold recordable
  cases planned : Homing.plan gantry.axisSet gantry.rails homing.wanted with
  | error fault =>
    rw [if_neg fun both => equipped.not_knows_of_plan planned both.1,
      value_home_of_unplanned host homing planned]
    exact ⟨[], nofun, rfl, by simp⟩
  | ok steps =>
    rcases Homing.bound_of_plan planned with ⟨axes, bound⟩
    have known := knows_of_plan planned
    rw [value_home_of_plan host homing planned]
    by_cases fits : gantry.axisCount < targetLimit
    · refine ⟨steps.takeWhile fun step => homing.silent ≠ some step.1, ?_, ?_, ?_⟩
      · intro step listed
        exact bound step ((List.takeWhile_prefix _).subset listed)
      · rw [if_pos ⟨known, fits⟩, ← axes, List.takeWhile_map]
        rfl
      · rw [value_perform fits (equipped.inside_of_plan planned)]
    · rw [if_neg fun both => fits both.2]
      refine ⟨[], nofun, rfl, ?_⟩
      cases steps with
      | nil => simp [Homing.perform]
      | cons step rest => simp [Homing.value_perform_of_unfit host fits]

/-! ## Bounds -/

/-- Every call that a host sees is for an axis of the machine. -/
theorem Equipped.inBounds_of_callsSeen (equipped : gantry.Equipped) {σ : Type}
    (host : HomingHost α σ) (state : σ) :
    ∀ call ∈ Homing.callsSeen host gantry.axisCount gantry.axisSet gantry.rails state,
      call.move.axis < gantry.axisCount ∧ call.move.InBounds := by
  intro call seen
  unfold Homing.callsSeen at seen
  cases planned : Homing.plan gantry.axisSet gantry.rails (host.wanted state) with
  | error fault =>
    rw [(Homing.ends_of_unplanned host gantry.axisCount planned).2] at seen
    cases seen
  | ok steps =>
    rcases Homing.exists_calls_of_plan host gantry.axisCount planned with
      ⟨calls, watched, ordered, -⟩
    rw [watched] at seen
    rcases List.mem_map.mp (ordered.subset seen) with ⟨step, listed, rfl⟩
    have inside := equipped.inside_of_plan planned step listed
    exact ⟨inside, HomingMove.inBounds_ofRail inside step.2⟩

/-- Homing adds records in bounds to a simulated host. -/
theorem Equipped.inBounds_home (equipped : gantry.Equipped) {homing : SimulatedHoming α}
    (inBounds : ∀ move ∈ homing.moves, move.InBounds) :
    ∀ move ∈ (gantry.home SimulatedHoming.host homing).value.2.moves, move.InBounds := by
  rcases equipped.exists_steps_of_home homing with ⟨steps, bound, -, homed⟩
  rw [homed, SimulatedHoming.moves_recording, List.map_map]
  intro move listed
  rcases List.mem_append.mp listed with before | added
  · exact inBounds move before
  · rcases List.mem_map.mp added with ⟨step, stepListed, rfl⟩
    have inside := equipped.lt_of_railOf? (bound step stepListed)
    exact HomingMove.inBounds_ofRail inside step.2

/-! ## Faults that end a run -/

/-- A simulated homing ends the whole run exactly if the targets of its first axis do
not fit into memory. -/
theorem Equipped.isFatal_home_iff (equipped : gantry.Equipped) (wanted : List Nat)
    (silent : Option Nat) :
    (∃ fault, (gantry.home SimulatedHoming.host ⟨wanted, silent, [], []⟩).value.1 = .error fault ∧
      fault.isFatal = true) ↔
    wanted ≠ [] ∧ (∀ axis ∈ wanted, gantry.axisSet.slotOf axis ≠ none) ∧
      targetLimit ≤ gantry.axisCount := by
  constructor
  · rintro ⟨fault, ended, fatal⟩
    cases planned : Homing.plan gantry.axisSet gantry.rails wanted with
    | error other =>
      rcases Homing.exists_unknown_of_plan planned with ⟨axis, -, -, rfl⟩
      rw [value_home_of_unplanned SimulatedHoming.host ⟨wanted, silent, [], []⟩ planned] at ended
      cases ended
      cases fatal
    | ok steps =>
      rw [value_home_of_plan SimulatedHoming.host ⟨wanted, silent, [], []⟩ planned] at ended
      refine ⟨?_, knows_of_plan planned, Nat.le_of_not_lt fun fits => ?_⟩
      · rintro rfl
        cases planned
        cases ended
      · rw [SimulatedHoming.value_perform fits (equipped.inside_of_plan planned)] at ended
        dsimp only at ended
        split at ended
        · cases ended
        · cases ended
          cases fatal
  · rintro ⟨something, known, unfit⟩
    rcases equipped.home_of_overflow SimulatedHoming.host ⟨wanted, silent, [], []⟩ something known
      unfit with ⟨axis, -, ended⟩
    exact ⟨_, congrArg Prod.fst ended, rfl⟩

/-- Homing configured axes succeeds if no endstop stays silent and targets fit into
memory. -/
theorem Equipped.result_home (equipped : gantry.Equipped) {wanted : List Nat}
    (known : ∀ axis ∈ wanted, gantry.axisSet.slotOf axis ≠ none)
    (fits : gantry.axisCount < targetLimit) :
    (gantry.home SimulatedHoming.host ⟨wanted, none, [], []⟩).value.1 = .ok () := by
  cases planned : Homing.plan gantry.axisSet gantry.rails wanted with
  | error fault => exact absurd known (equipped.not_knows_of_plan planned)
  | ok steps =>
    rw [value_home_of_plan SimulatedHoming.host ⟨wanted, none, [], []⟩ planned,
      SimulatedHoming.value_perform fits (equipped.inside_of_plan planned)]
    have responsive : (steps.find? fun step => (none : Option Nat) = some step.1) = none :=
      List.find?_eq_none.mpr fun step _ => by simp
    simp only [responsive]
    rfl

/-! ## Setting the position that results -/

/-- A coordinate was set with exactly the listed axes homed: their slots have the
range of their rail and stand at its endstop, the others are as they were and
stand at zero. -/
structure HomesExactly (before after : Gantry α) (position : Point α) (axes : List Nat) :
    Prop where
  homed : ∀ slot, before.axisSet.globalIndex slot ∈ axes → ∃ rail,
    before.rails.get slot = some rail ∧
    after.limits.get slot = ⟨rail.positionMin, rail.positionMax⟩ ∧
    position.get slot = rail.positionEndstop
  others : ∀ slot, before.axisSet.globalIndex slot ∉ axes →
    after.limits.get slot = before.limits.get slot ∧ position.get slot = 0.0
  pushed : after.position = position
  moved : after.rails = before.rails.map (Option.map (·.moveTo position))

/-- Configured axes can be homed at any position. -/
theorem setPosition_of_knows (gantry : Gantry α) (position : Point α) {axes : List Nat}
    (known : ∀ axis ∈ axes, gantry.axisSet.slotOf axis ≠ none) :
    let outcome := (gantry.setPosition position axes).value
    outcome.1 = .ok () ∧ outcome.2.position = position ∧
      outcome.2.rails = gantry.rails.map (Option.map (·.moveTo position)) ∧
      ∀ slot, outcome.2.limits.get slot = gantry.touched slot
        (if gantry.axisSet.globalIndex slot ∈ axes then some .homed else none) := by
  intro outcome
  rcases exists_slotsOf known with ⟨slots, resolved⟩
  have succeeded : outcome.1 = .ok () := by
    simp only [outcome, value_setPosition, resolved]
  have limits (slot : Slot) : outcome.2.limits.get slot = gantry.touched slot
      (Touch.ofHoming? axes (gantry.axisSet.globalIndex slot) outcome.1) :=
    gantry.limits_setPosition position axes slot
  rw [succeeded] at limits
  refine ⟨succeeded, ?_, ?_, limits⟩
  · simp only [outcome, value_setPosition, resolved]
  · simp only [outcome, value_setPosition, resolved]

/-- All moves of the axis of a slot are made with the rail in the slot, so they lead
to its endstop. -/
theorem Equipped.target_of_bound (equipped : gantry.Equipped) {slot : Slot} {rail : Rail α}
    (held : gantry.rails.get slot = some rail) {step : Nat × Rail α}
    (bound : Homing.railOf? gantry.axisSet gantry.rails step.1 = some step.2)
    (same : step.1 = gantry.axisSet.globalIndex slot) :
    (HomingMove.ofRail step.1 step.2 gantry.axisCount).target = some rail.positionEndstop := by
  rw [same] at bound ⊢
  have sameRail := (get_of_railOf? bound).symm.trans held
  rw [Option.some.inj sameRail]
  exact HomingMove.target_ofRail (equipped.globalIndex_lt slot) rail

/-- What a new simulated host has recorded after homing: its moves are made with rails
of the gantry, for the axes that can be recorded. -/
theorem Equipped.exists_moves_of_home (equipped : gantry.Equipped) (wanted : List Nat)
    (silent : Option Nat) :
    let homing := (gantry.home SimulatedHoming.host ⟨wanted, silent, [], []⟩).value.2
    ∃ steps : List (Nat × Rail α),
      (∀ step ∈ steps, Homing.railOf? gantry.axisSet gantry.rails step.1 = some step.2) ∧
      (homing.moves = steps.map fun step => .ofRail step.1 step.2 gantry.axisCount) ∧
      homing.homedAxes = steps.map Prod.fst ∧
      homing.homedAxes = gantry.recordable wanted silent := by
  intro homing
  rcases equipped.exists_steps_of_home ⟨wanted, silent, [], []⟩ with ⟨steps, bound, axes, homed⟩
  have moves : homing.moves = steps.map fun step =>
      .ofRail step.1 step.2 gantry.axisCount := by
    simp only [homing, homed, SimulatedHoming.moves_recording, List.map_map]
    rfl
  have homedAxes : homing.homedAxes = steps.map Prod.fst := by
    simp only [homing, homed, SimulatedHoming.homedAxes_recording, List.map_map]
    rfl
  exact ⟨steps, bound, moves, homedAxes, homedAxes.trans axes⟩

/-- A recorded axis ends at the endstop of the rail in its slot. -/
theorem Equipped.exists_rail_of_homed (equipped : gantry.Equipped) {homing : SimulatedHoming α}
    {steps : List (Nat × Rail α)}
    (bound : ∀ step ∈ steps, Homing.railOf? gantry.axisSet gantry.rails step.1 = some step.2)
    (moves : homing.moves = steps.map fun step => .ofRail step.1 step.2 gantry.axisCount)
    {slot : Slot} (homed : gantry.axisSet.triplet.get slot ∈ homing.homedAxes) :
    ∃ rail, gantry.rails.get slot = some rail ∧
      (homing.finalPosition gantry.axisSet.triplet).get slot = rail.positionEndstop := by
  have atSlot := gantry.axisSet.get_triplet slot
  have listed := homed
  rw [SimulatedHoming.homedAxes, moves, List.map_map] at listed
  rcases List.mem_map.mp listed with ⟨step, planned, same⟩
  have atStep : step.1 = gantry.axisSet.globalIndex slot := same.trans atSlot
  have held : gantry.rails.get slot = some step.2 := get_of_railOf? (atStep ▸ bound step planned)
  refine ⟨step.2, held, ?_⟩
  refine SimulatedHoming.get_finalPosition_of_mem gantry.axisSet.distinct_triplet homed ?_
  intro move moveListed sameAxis
  rw [moves] at moveListed
  rcases List.mem_map.mp moveListed with ⟨other, otherPlanned, rfl⟩
  exact equipped.target_of_bound held (bound other otherPlanned) (sameAxis.trans atSlot)

/-- Whatever a simulated homing came to, the position that results can be set, and
homes what was recorded. -/
theorem Equipped.homesExactly (equipped : gantry.Equipped) (wanted : List Nat)
    (silent : Option Nat) :
    let homing := (gantry.home SimulatedHoming.host ⟨wanted, silent, [], []⟩).value.2
    let position := homing.finalPosition gantry.axisSet.triplet
    let outcome := (gantry.setPosition position homing.homedAxes).value
    homing.homedAxes = gantry.recordable wanted silent ∧ outcome.1 = .ok () ∧
      gantry.HomesExactly outcome.2 position (gantry.recordable wanted silent) := by
  intro homing position outcome
  rcases equipped.exists_moves_of_home wanted silent with
    ⟨steps, bound, moves, homedAxes, recordable⟩
  have known : ∀ axis ∈ homing.homedAxes, gantry.axisSet.slotOf axis ≠ none := by
    rw [homedAxes]
    exact knows_of_bound bound
  rcases gantry.setPosition_of_knows position known with ⟨succeeded, pushed, moved, limits⟩
  rw [← recordable]
  refine ⟨rfl, succeeded, ?_, ?_, pushed, moved⟩
  · intro slot listed
    rw [← gantry.axisSet.get_triplet] at listed
    rcases equipped.exists_rail_of_homed bound moves listed with ⟨rail, held, atEndstop⟩
    rw [gantry.axisSet.get_triplet] at listed
    refine ⟨rail, held, ?_, atEndstop⟩
    rw [limits slot, if_pos listed, touched_homed (railRange?_of_held held)]
    rfl
  · intro slot unlisted
    constructor
    · rw [limits slot, if_neg unlisted]
      rfl
    · rw [← gantry.axisSet.get_triplet] at unlisted
      exact SimulatedHoming.get_finalPosition_of_not_mem gantry.axisSet.distinct_triplet unlisted

end Gantry

end BeltGantry

import BeltGantry.Proofs.Session.Homing
import BeltGantry.Proofs.Session.Measurement
namespace BeltGantry

/-!
# What a calculated position is made of

A calculated position draws on two sources.  A slot with a rail reads the
measurement under the name of that rail, which is no other rail's name; the slot
without one reads the coordinate that was set last.  Neither takes the place of
the other: where a measurement is missing, the calculation fails and names the
first rail that lacks one, in slot order.  Nothing else in the measurements and
nothing else in the history of the session is of any account.
-/

variable {α : Type}

namespace Gantry

section

variable {gantry : Gantry α} {measured : String → Option α} {slot : Slot}

/-- Measurements that agree on the rails of a gantry are the same to it. -/
theorem measuredAt_congr {other : String → Option α}
    (agree : ∀ rail ∈ gantry.railList, measured rail.name = other rail.name) :
    gantry.measuredAt measured = gantry.measuredAt other := by
  funext slot
  cases held : gantry.rails.get slot with
  | none => rw [measuredAt_of_empty held, measuredAt_of_empty held]
  | some rail =>
    rw [measuredAt_of_held held, measuredAt_of_held held,
      agree rail (mem_railList_iff.mpr ⟨slot, held⟩)]

/-- A slot cannot be measured exactly if it has a rail without a measurement. -/
theorem measuredAt_eq_error_iff {fault : Fault α} :
    gantry.measuredAt measured slot = .error fault ↔
      ∃ rail, gantry.rails.get slot = some rail ∧ (measured rail.name).isNone = true ∧
        fault = .unknownRail rail.name := by
  cases held : gantry.rails.get slot with
  | none => simp [measuredAt_of_empty held]
  | some rail =>
    rw [measuredAt_of_held held]
    cases read : measured rail.name with
    | none => simpa [read] using eq_comm
    | some value => simp [read]

/-- What the slots read: each slot with a rail the measurement of that rail, and the
third slot without one a coordinate that is kept. -/
structure Reads (gantry : Gantry α) (measured : String → Option α) (kept : α)
    (vector : Triplet α) : Prop where
  measured : ∀ slot rail, gantry.rails.get slot = some rail →
    measured rail.name = some (vector.get slot)
  kept : gantry.rails.get .z = none → vector.z = kept

theorem Labelled.reads_iff (labelled : gantry.Labelled) {vector : Triplet α} :
    gantry.Reads measured gantry.position.z vector ↔
      ∀ slot, gantry.measuredAt measured slot = .ok (vector.get slot) := by
  constructor
  · intro reads slot
    cases held : gantry.rails.get slot with
    | none =>
      have third := labelled.paired slot held
      subst third
      rw [measuredAt_of_empty held]
      exact congrArg Except.ok (reads.kept held).symm
    | some rail =>
      rw [measuredAt_of_held held, reads.measured slot rail held]
      rfl
  · intro located
    refine ⟨fun slot rail held => ?_, fun empty => ?_⟩
    · have found := located slot
      rw [measuredAt_of_held held] at found
      cases read : measured rail.name with
      | none => simp [read] at found
      | some value => simpa [read] using found
    · have found := located .z
      rw [measuredAt_of_empty empty] at found
      exact (Except.ok.inj found).symm

/-- No two rails of a gantry have the same name. -/
theorem Labelled.nodup_names (labelled : gantry.Labelled) :
    (gantry.railList.map Rail.name).Nodup := by
  apply List.pairwise_map.mpr
  apply pairwise_railList
  intro slot other apart rail held second heldSecond same
  exact apart (labelled.slot_of_name held heldSecond same)

/-- The rails of a gantry are those of its axes, each under the name that the letter of
the axis makes. -/
theorem Labelled.name_get (labelled : gantry.Labelled) (equipped : gantry.Equipped) (slot : Slot) :
    (gantry.rails.get slot).map Rail.name =
      (gantry.axisSet.axisAt slot).map fun axis => railName axis.letter.toString := by
  cases held : gantry.rails.get slot with
  | none =>
    have dummy := equipped.fitted slot
    rw [railRange?, held, AxisSet.isDummy, Option.not_isNone] at dummy
    rw [Option.not_isSome_iff_eq_none.mp (Bool.eq_false_iff.mp dummy.symm)]
    rfl
  | some rail =>
    rcases labelled.named slot rail held with ⟨axis, configured, name⟩
    rw [configured]
    exact congrArg some name

end

variable [Scalar α] {gantry : Gantry α} {measured : String → Option α}

theorem calcPosition_congr {other : String → Option α}
    (agree : ∀ rail ∈ gantry.railList, measured rail.name = other rail.name) :
    gantry.calcPosition measured = gantry.calcPosition other := by
  unfold calcPosition
  rw [measuredAt_congr agree]

theorem calcPosition_eq_error_iff {fault : Fault α} :
    gantry.calcPosition measured = .error fault ↔
      ∃ rail, gantry.railList.find? (fun rail => (measured rail.name).isNone) = some rail ∧
        fault = .unknownRail rail.name := by
  rw [railList_eq, ← mapM_held_eq_error_iff fun _ _ => measuredAt_eq_error_iff]
  apply bind_slots_eq_error_iff.trans
  apply or_iff_left
  rintro ⟨_, -, impossible⟩
  cases impossible

theorem Labelled.calcPosition_eq_ok_iff (labelled : gantry.Labelled) {coordinate : Point α} :
    gantry.calcPosition measured = .ok coordinate ↔
      ∃ vector, gantry.Reads measured gantry.position.z vector ∧ coordinate = forward vector := by
  constructor
  · intro calculated
    rcases exists_of_bind_eq_ok calculated with ⟨x, atX, rest⟩
    rcases exists_of_bind_eq_ok rest with ⟨y, atY, rest⟩
    rcases exists_of_bind_eq_ok rest with ⟨z, atZ, last⟩
    refine ⟨⟨x, y, z⟩, labelled.reads_iff.mpr fun slot => ?_, (Except.ok.inj last).symm⟩
    cases slot <;> assumption
  · rintro ⟨vector, reads, rfl⟩
    exact calcPosition_of_measuredAt (labelled.reads_iff.mp reads)

end Gantry

namespace Session

variable [Scalar α]

/-- A calculated position is made of the measurements of the rails and, where there is
no third axis, of the coordinate that was set last.  Rails have the names of their axes,
no two the same; the calculation fails exactly if a rail lacks a measurement; and
measurements under other names change nothing. -/
theorem reading_of_run (toolhead : Toolhead α) (requests : List (Request α)) (number : Nat)
    (gantry : Gantry α)
    (held : gantry? ((start toolhead).run requests) number = some gantry) :
    let commanded := (lastPushed? number ((start toolhead).trace requests)).getD ⟨0.0, 0.0, 0.0⟩
    (∀ slot, (gantry.rails.get slot).map Rail.name =
      (gantry.axisSet.axisAt slot).map fun axis => railName axis.letter.toString) ∧
    (gantry.railList.map Rail.name).Nodup ∧
    (∀ measured fault, gantry.calcPosition measured = .error fault ↔
      ∃ rail, gantry.railList.find? (fun rail => (measured rail.name).isNone) = some rail ∧
        fault = .unknownRail rail.name) ∧
    (∀ measured coordinate, gantry.calcPosition measured = .ok coordinate ↔
      ∃ vector, gantry.Reads measured commanded.z vector ∧ coordinate = forward vector) ∧
    ∀ measured other : String → Option α,
      (∀ rail ∈ gantry.railList, measured rail.name = other rail.name) →
      gantry.calcPosition measured = gantry.calcPosition other := by
  intro commanded
  have labelled := labelled_run held
  have kept : gantry.position = commanded := position_run toolhead held
  refine ⟨labelled.name_get (equipped_run held), labelled.nodup_names, ?_, ?_, ?_⟩
  · intro measured fault
    exact Gantry.calcPosition_eq_error_iff
  · intro measured coordinate
    rw [← kept]
    exact labelled.calcPosition_eq_ok_iff
  · intro measured other agree
    exact Gantry.calcPosition_congr agree

/-- A gantry without third axis takes the third component from the coordinate that was
set; without measurements, it is the first rail that is reported. -/
theorem reading_of_run_settingFlat :
    ∃ gantry, gantry? ((start .flatbed).run settingFlat) 0 = some gantry ∧
      gantry.railList.map Rail.name = ["stepper_x", "stepper_y"] ∧
      gantry.calcPosition (measuredFlat.lookup ·) = .ok ⟨5.0, 2.0, 5.0⟩ ∧
      gantry.calcPosition (fun _ => none) = .error (.unknownRail "stepper_x") := by
  have held := (Option.some_get isSome_settingFlat).symm
  rcases reading_of_run .flatbed settingFlat 0 _ held with ⟨-, -, missing, located, -⟩
  have last : lastPushed? 0 ((start .flatbed).trace settingFlat) = some ⟨10.0, 20.0, 5.0⟩ := by
    decide +kernel
  have names : (Option.get _ isSome_settingFlat).railList.map Rail.name =
      ["stepper_x", "stepper_y"] := by
    decide +kernel
  have readings : ∀ slot ∈ Slot.all, ∀ rail ∈ (Option.get _ isSome_settingFlat).rails.get slot,
      measuredFlat.lookup rail.name = some ((⟨7.0, 3.0, 5.0⟩ : Triplet ℚ).get slot) := by
    decide +kernel
  have first : ((Option.get _ isSome_settingFlat).railList.find?
      fun _ => (none : Option ℚ).isNone).map Rail.name = some "stepper_x" := by
    decide +kernel
  rw [last] at located
  refine ⟨_, held, names, (located _ _).mpr ⟨⟨7.0, 3.0, 5.0⟩, ⟨?_, fun _ => rfl⟩, ?_⟩, ?_⟩
  · exact fun slot => readings slot slot.mem_all
  · decide +kernel
  · rcases Option.map_eq_some_iff.mp first with ⟨rail, found, name⟩
    exact (missing _ _).mpr ⟨rail, found, congrArg _ name.symm⟩

end Session

end BeltGantry

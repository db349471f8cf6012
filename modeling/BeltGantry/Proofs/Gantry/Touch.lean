import BeltGantry.Proofs.Axis.Layout
import BeltGantry.Proofs.Failure
import BeltGantry.Session
namespace BeltGantry

/-!
# What an operation does to a limit

An operation touches the limit of a slot in one of two ways, or leaves it alone.
A coordinate that was set with the slot's axis listed as homed gives the slot the
whole range of its rail; a request to forget the slot takes the limit back.
Requests that fail touch nothing, and neither do homing by itself, the check of
a move and the report of a status.  The only other writer of limits is
`setLimit`, which gets past the gantry; it is set apart by `isDirectWrite`.

`limits_perform` says that this is all: the limits after an operation follow
from the limits before it and from what was asked and answered.  The axes of a
gantry and the ranges of its rails never change.
-/

/-- How an event touches the limit of a slot. -/
inductive Touch where
  | homed
  | forgotten
  deriving DecidableEq, Repr

/-- Setting a coordinate touches the slots of the listed axes, if it succeeds. -/
def Touch.ofHoming? {φ : Type} (axes : List Nat) (index : Nat) :
    Except φ Unit → Option Touch
  | .error _ => none
  | .ok () => if index ∈ axes then some .homed else none

namespace Operation

variable {α : Type}

/-- Whether an operation writes a limit past all checks. -/
def isDirectWrite : Operation α → Bool
  | .setLimit .. => true
  | _ => false

/-- How an operation touches a slot with a given axis number, in view of the
answer.  Homing touches slots only through the coordinate that is set after it. -/
def touch? (slot : Slot) (index : Nat) : Operation α → Reply α → Option Touch
  | .setPosition _ axes, .done result => Touch.ofHoming? axes index result
  | .home .., .homed report =>
    report.applied.bind (Touch.ofHoming? report.homing.homedAxes index)
  | .forgetThird, .done (.ok ()) => if slot = .z then some .forgotten else none
  | .forgetAxis axis, .done (.ok ()) => if index = axis then some .forgotten else none
  | _, _ => none

/-- Whether an operation is of the kind that changes no limit: a check, a report,
homing after which no coordinate was set, or anything that failed. -/
def isQuiet : Operation α → Reply α → Bool
  | .calcPosition _, _ => true
  | .checkMove _, _ => true
  | .status _, _ => true
  | .home .., .homed ⟨_, _, _, none⟩ => true
  | .home .., .homed ⟨_, _, _, some (.error _)⟩ => true
  | _, .done (.error _) => true
  | _, _ => false

theorem touch?_of_isQuiet {operation : Operation α} {reply : Reply α}
    (quiet : operation.isQuiet reply = true) (slot : Slot) (index : Nat) :
    operation.touch? slot index reply = none := by
  unfold isQuiet at quiet
  split at quiet
  · rfl
  · rfl
  · rfl
  · rfl
  · rfl
  · cases operation <;> rfl
  · cases quiet

end Operation

theorem Fault.endsProgram_eq_true_iff {α β : Type} {outcome : Except (Fault α) β} :
    endsProgram outcome = true ↔ ∃ fault, outcome = .error fault ∧ fault.isFatal = true := by
  cases outcome <;> simp [endsProgram]

namespace Gantry

variable {α : Type}

/-- Travel range of the rail in a slot. -/
def railRange? (gantry : Gantry α) (slot : Slot) : Option (Limit α) :=
  (gantry.rails.get slot).map Rail.range

theorem railRange?_of_held {gantry : Gantry α} {slot : Slot} {rail : Rail α}
    (held : gantry.rails.get slot = some rail) : gantry.railRange? slot = some rail.range := by
  rw [railRange?, held]
  rfl

/-- In a slot that is fitted for its axis there is a rail exactly if the axis is configured. -/
theorem exists_rail_iff_of_fitted {gantry : Gantry α} {slot : Slot}
    (fitted : (gantry.railRange? slot).isSome = !gantry.axisSet.isDummy slot) :
    (∃ rail, gantry.rails.get slot = some rail) ↔ gantry.axisSet.isDummy slot = false := by
  rw [← Option.isSome_iff_exists, ← Option.isSome_map, ← railRange?, fitted, Bool.not_eq_true']

/-! ## The slots of listed axes -/

theorem slotOf_eq_ok_iff (gantry : Gantry α) {axis : Nat} {slot : Slot} :
    gantry.slotOf axis = .ok slot ↔ gantry.axisSet.slotOf axis = some slot := by
  unfold slotOf
  cases gantry.axisSet.slotOf axis <;> simp

theorem slotsOf_eq_mapM (gantry : Gantry α) (axes : List Nat) :
    gantry.slotsOf axes = axes.mapM gantry.slotOf := by
  induction axes with
  | nil => rfl
  | cons axis rest inductionHypothesis =>
    unfold slotsOf
    cases outcome : gantry.slotOf axis with
    | error fault => rw [mapM_cons_of_error outcome]
    | ok slot =>
      rw [mapM_cons_of_ok outcome, inductionHypothesis]
      cases rest.mapM gantry.slotOf <;> rfl

theorem slotsOf_eq_ok_iff (gantry : Gantry α) {axes : List Nat} {slots : List Slot} :
    gantry.slotsOf axes = .ok slots ↔ axes.map gantry.axisSet.slotOf = slots.map some := by
  rw [slotsOf_eq_mapM, mapM_eq_ok_iff, ← List.forall₂_eq_eq_eq, List.forall₂_map_left_iff,
    List.forall₂_map_right_iff]
  simp only [slotOf_eq_ok_iff]

/-- Among the slots of listed axes is exactly each one whose number is listed. -/
theorem mem_slotsOf_iff (gantry : Gantry α) {axes : List Nat} {slots : List Slot}
    (resolved : gantry.slotsOf axes = .ok slots) (slot : Slot) :
    slot ∈ slots ↔ gantry.axisSet.globalIndex slot ∈ axes := by
  have sameSlots := gantry.slotsOf_eq_ok_iff.mp resolved
  constructor
  · intro listed
    have found : some slot ∈ axes.map gantry.axisSet.slotOf :=
      sameSlots ▸ List.mem_map_of_mem listed
    rcases List.mem_map.mp found with ⟨axis, axisListed, answered⟩
    rw [(gantry.axisSet.slotOf_eq_some_iff.mp answered).2]
    exact axisListed
  · intro axisListed
    have found : gantry.axisSet.slotOf (gantry.axisSet.globalIndex slot) ∈ slots.map some :=
      sameSlots ▸ List.mem_map_of_mem axisListed
    rcases List.mem_map.mp found with ⟨other, listed, answered⟩
    have same := (gantry.axisSet.slotOf_eq_some_iff.mp answered.symm).2
    exact gantry.axisSet.globalIndex_injective same ▸ listed

theorem isDummy_of_mem_slotsOf (gantry : Gantry α) {axes : List Nat} {slots : List Slot}
    (resolved : gantry.slotsOf axes = .ok slots) {slot : Slot} (listed : slot ∈ slots) :
    gantry.axisSet.isDummy slot = false := by
  have sameSlots := gantry.slotsOf_eq_ok_iff.mp resolved
  have found : some slot ∈ axes.map gantry.axisSet.slotOf :=
    sameSlots ▸ List.mem_map_of_mem listed
  rcases List.mem_map.mp found with ⟨axis, -, answered⟩
  exact (gantry.axisSet.slotOf_eq_some_iff.mp answered).1

/-! ## Setting a coordinate -/

theorem get_homeSlots (rails : Triplet (Option (Rail α))) (slots : List Slot)
    (limits : Limits α) (slot : Slot) :
    (homeSlots rails slots limits).value.get slot =
      if slot ∈ slots then ((rails.get slot).map Rail.range).getD (limits.get slot)
      else limits.get slot := by
  induction slots generalizing limits with
  | nil => simp [homeSlots]
  | cons first rest inductionHypothesis =>
    unfold homeSlots
    by_cases same : slot = first
    · subst same
      cases held : rails.get slot with
      | none => simp [inductionHypothesis, held]
      | some rail => simp [inductionHypothesis, held, Limits.update]
    · cases held : rails.get first with
      | none => simp [inductionHypothesis, same]
      | some rail =>
        simp [inductionHypothesis, same, Limits.update, Triplet.get_set_of_ne _ _ same]

/-! ## Operations and limits -/

/-- What the operations on a gantry leave as it was built. -/
structure SameRails (before after : Gantry α) : Prop where
  axisSet : after.axisSet = before.axisSet
  railRange? : ∀ slot, after.railRange? slot = before.railRange? slot

theorem SameRails.refl (gantry : Gantry α) : gantry.SameRails gantry :=
  ⟨rfl, fun _ => rfl⟩

theorem SameRails.symm {before after : Gantry α} (same : before.SameRails after) :
    after.SameRails before where
  axisSet := same.axisSet.symm
  railRange? := fun slot => (same.railRange? slot).symm

theorem SameRails.trans {first second third : Gantry α} (early : first.SameRails second)
    (late : second.SameRails third) : first.SameRails third where
  axisSet := late.axisSet.trans early.axisSet
  railRange? := fun slot => (late.railRange? slot).trans (early.railRange? slot)

theorem sameRails_withLimits (gantry : Gantry α) (limits : Told α (Limits α)) :
    gantry.SameRails (gantry.withLimits limits).value :=
  ⟨rfl, fun _ => rfl⟩

variable [Scalar α]

/-- The limit of a slot after it was touched. -/
def touched (gantry : Gantry α) (slot : Slot) : Option Touch → Limit α
  | none => gantry.limits.get slot
  | some .homed => (gantry.railRange? slot).getD (gantry.limits.get slot)
  | some .forgotten => Limit.unhomed

theorem touched_homed {gantry : Gantry α} {slot : Slot} {range : Limit α}
    (ranged : gantry.railRange? slot = some range) :
    gantry.touched slot (some .homed) = range := by
  rw [touched, ranged]
  rfl

/-- Setting a coordinate fails without effect, or reaches all rails and the
listed slots. -/
theorem value_setPosition (gantry : Gantry α) (position : Point α) (axes : List Nat) :
    (gantry.setPosition position axes).value =
      match gantry.slotsOf axes with
      | .error fault => (.error fault, gantry)
      | .ok slots =>
        (.ok (), { gantry with
          rails := gantry.rails.map (Option.map (·.moveTo position))
          position := position
          limits := (homeSlots gantry.rails slots gantry.limits).value }) := by
  unfold setPosition
  cases gantry.slotsOf axes <;> rfl

theorem sameRails_setPosition (gantry : Gantry α) (position : Point α) (axes : List Nat) :
    gantry.SameRails (gantry.setPosition position axes).value.2 := by
  rw [value_setPosition]
  cases gantry.slotsOf axes with
  | error fault => exact SameRails.refl gantry
  | ok slots =>
    refine ⟨rfl, fun slot => ?_⟩
    simp only [railRange?, Triplet.get_map]
    cases gantry.rails.get slot <;> rfl

theorem limits_setPosition (gantry : Gantry α) (position : Point α) (axes : List Nat)
    (slot : Slot) :
    (gantry.setPosition position axes).value.2.limits.get slot =
      gantry.touched slot (Touch.ofHoming? axes (gantry.axisSet.globalIndex slot)
        (gantry.setPosition position axes).value.1) := by
  rw [value_setPosition]
  cases resolved : gantry.slotsOf axes with
  | error fault => rfl
  | ok slots =>
    have sameSlots := gantry.mem_slotsOf_iff resolved slot
    by_cases listed : slot ∈ slots
    · simp [get_homeSlots, listed, sameSlots.mp listed, Touch.ofHoming?, touched, railRange?]
    · have axisUnlisted : gantry.axisSet.globalIndex slot ∉ axes := by
        intro axisListed
        exact listed (sameSlots.mpr axisListed)
      simp [get_homeSlots, listed, axisUnlisted, Touch.ofHoming?, touched]

theorem isDummy_of_ofHoming? (gantry : Gantry α) (position : Point α) {axes : List Nat}
    {slot : Slot} (homed : Touch.ofHoming? axes (gantry.axisSet.globalIndex slot)
      (gantry.setPosition position axes).value.1 = some .homed) :
    gantry.axisSet.isDummy slot = false := by
  rw [value_setPosition] at homed
  cases resolved : gantry.slotsOf axes with
  | error fault =>
    rw [resolved] at homed
    cases homed
  | ok slots =>
    simp only [resolved, Touch.ofHoming?, Option.ite_none_right_eq_some, and_true] at homed
    exact gantry.isDummy_of_mem_slotsOf resolved ((gantry.mem_slotsOf_iff resolved slot).mpr homed)

/-- Forgetting an axis fails without effect, or takes back the limit of its slot. -/
theorem value_forgetAxis (gantry : Gantry α) (axis : Nat) :
    (gantry.forgetAxis axis).value =
      match gantry.axisSet.slotOf axis with
      | none => (.error (.homing (.unknownAxis axis)), gantry)
      | some slot => (.ok (), (gantry.withLimits (gantry.limits.forget slot)).value) := by
  unfold forgetAxis slotOf
  cases gantry.axisSet.slotOf axis <;> rfl

theorem limits_forgetAxis (gantry : Gantry α) (axis : Nat) (slot : Slot) :
    (gantry.forgetAxis axis).value.2.limits.get slot =
      gantry.touched slot (Operation.touch? slot (gantry.axisSet.globalIndex slot)
        (.forgetAxis axis) (.done (gantry.forgetAxis axis).value.1)) := by
  rw [value_forgetAxis]
  cases found : gantry.axisSet.slotOf axis with
  | none => rfl
  | some other =>
    rcases gantry.axisSet.slotOf_eq_some_iff.mp found with ⟨-, number⟩
    by_cases same : slot = other
    · subst same
      simp [withLimits, Limits.forget, Limits.update, Operation.touch?, touched, number]
    · have apart : gantry.axisSet.globalIndex slot ≠ axis := by
        intro sameNumber
        exact same (gantry.axisSet.globalIndex_injective (sameNumber.trans number.symm))
      simp [withLimits, Limits.forget, Limits.update, Operation.touch?, touched, apart,
        Triplet.get_set_of_ne _ _ same]

theorem limits_forgetThird (gantry : Gantry α) (slot : Slot) :
    gantry.forgetThird.value.limits.get slot =
      gantry.touched slot (if slot = .z then some .forgotten else none) := by
  cases slot <;> rfl

/-- Homing with a simulated host sets the position that results or leaves the gantry alone. -/
theorem value_homeSimulated (gantry : Gantry α) (homing : SimulatedHoming α) (apply : Bool) :
    (gantry.homeSimulated homing apply).value =
      let homed := (gantry.home SimulatedHoming.host homing).value
      let position := homed.2.finalPosition gantry.axisSet.triplet
      let moved := (gantry.setPosition position homed.2.homedAxes).value
      if apply && !Fault.endsProgram homed.1 then
        (⟨homed.1, homed.2, position, some moved.1⟩, moved.2)
      else (⟨homed.1, homed.2, position, none⟩, gantry) := by
  unfold homeSimulated
  rw [Noted.value_bind]
  dsimp only
  split <;> rfl

theorem report_homeSimulated (gantry : Gantry α) (homing : SimulatedHoming α) (apply : Bool) :
    let homed := (gantry.home SimulatedHoming.host homing).value
    let report := (gantry.homeSimulated homing apply).value.1
    report.result = homed.1 ∧ report.homing = homed.2 ∧
      report.finalPosition = homed.2.finalPosition gantry.axisSet.triplet := by
  intro homed report
  simp only [report, value_homeSimulated]
  split <;> exact ⟨rfl, rfl, rfl⟩

/-- The operation answers with what was set, or that nothing was. -/
theorem perform_home_cases (gantry : Gantry α) (homing : SimulatedHoming α) (apply : Bool) :
    let homed := (gantry.home SimulatedHoming.host homing).value
    let position := homed.2.finalPosition gantry.axisSet.triplet
    let moved := (gantry.setPosition position homed.2.homedAxes).value
    (gantry.perform (.home homing apply)).value =
        (.homed ⟨homed.1, homed.2, position, some moved.1⟩, moved.2) ∨
      (gantry.perform (.home homing apply)).value =
        (.homed ⟨homed.1, homed.2, position, none⟩, gantry) := by
  intro homed position moved
  have performed : (gantry.perform (.home homing apply)).value =
      (.homed (gantry.homeSimulated homing apply).value.1,
        (gantry.homeSimulated homing apply).value.2) := rfl
  rw [performed, value_homeSimulated]
  dsimp only
  split
  · exact .inl rfl
  · exact .inr rfl

/-- No operation changes the axes of a gantry or the ranges of its rails. -/
theorem sameRails_perform (gantry : Gantry α) (operation : Operation α) :
    gantry.SameRails (gantry.perform operation).value.2 := by
  cases operation with
  | setPosition position axes => exact gantry.sameRails_setPosition position axes
  | calcPosition measured => exact SameRails.refl gantry
  | forgetThird => exact gantry.sameRails_withLimits _
  | forgetAxis axis =>
    change gantry.SameRails (gantry.forgetAxis axis).value.2
    rw [value_forgetAxis]
    cases gantry.axisSet.slotOf axis with
    | none => exact SameRails.refl gantry
    | some slot => exact gantry.sameRails_withLimits _
  | setLimit slot limit => exact gantry.sameRails_withLimits _
  | home homing apply =>
    rcases gantry.perform_home_cases homing apply with set | left
    · rw [set]
      exact gantry.sameRails_setPosition _ _
    · rw [left]
      exact SameRails.refl gantry
  | checkMove move => exact SameRails.refl gantry
  | status time => exact SameRails.refl gantry

/-- The limits after an operation follow from how it touched each slot. -/
theorem limits_perform (gantry : Gantry α) (operation : Operation α)
    (indirect : operation.isDirectWrite = false) (slot : Slot) :
    (gantry.perform operation).value.2.limits.get slot =
      gantry.touched slot (operation.touch? slot (gantry.axisSet.globalIndex slot)
        (gantry.perform operation).value.1) := by
  cases operation with
  | setPosition position axes => exact gantry.limits_setPosition position axes slot
  | calcPosition measured => rfl
  | forgetThird => exact gantry.limits_forgetThird slot
  | forgetAxis axis => exact gantry.limits_forgetAxis axis slot
  | setLimit written limit => cases indirect
  | home homing apply =>
    rcases gantry.perform_home_cases homing apply with set | left
    · rw [set]
      exact gantry.limits_setPosition _ _ slot
    · rw [left]
      rfl
  | checkMove move => rfl
  | status time => rfl

/-- No operation homes a dummy. -/
theorem isDummy_of_touch? (gantry : Gantry α) {operation : Operation α} {slot : Slot}
    (homed : operation.touch? slot (gantry.axisSet.globalIndex slot)
      (gantry.perform operation).value.1 = some .homed) :
    gantry.axisSet.isDummy slot = false := by
  cases operation with
  | setPosition position axes => exact gantry.isDummy_of_ofHoming? position homed
  | calcPosition measured => cases homed
  | forgetThird =>
    change (if slot = .z then some Touch.forgotten else none) = some .homed at homed
    split at homed <;> cases homed
  | forgetAxis axis =>
    change Operation.touch? slot _ (.forgetAxis axis) (.done (gantry.forgetAxis axis).value.1) =
      some .homed at homed
    cases answer : (gantry.forgetAxis axis).value.1 with
    | error fault =>
      rw [answer] at homed
      cases homed
    | ok _ =>
      simp [answer, Operation.touch?] at homed
  | setLimit written limit => cases homed
  | home homing apply =>
    rcases gantry.perform_home_cases homing apply with set | left
    · rw [set] at homed
      exact gantry.isDummy_of_ofHoming? _ homed
    · rw [left] at homed
      cases homed
  | checkMove move => cases homed
  | status time => cases homed

/-- An operation of the kind that changes no limit leaves all limits as they were. -/
theorem limits_of_isQuiet (gantry : Gantry α) {operation : Operation α}
    (quiet : operation.isQuiet (gantry.perform operation).value.1 = true) :
    (gantry.perform operation).value.2.limits = gantry.limits := by
  have indirect : operation.isDirectWrite = false := by
    cases operation with
    | setLimit slot limit => cases quiet
    | _ => rfl
  ext slot
  rw [gantry.limits_perform operation indirect slot, Operation.touch?_of_isQuiet quiet]
  rfl

end Gantry

end BeltGantry

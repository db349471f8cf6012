import Mathlib.Data.List.Pairwise
import BeltGantry.Proofs.Gantry.Command
import BeltGantry.Proofs.Scalar.Exact
namespace BeltGantry

/-!
# Measured positions

Measured positions come by the names of the rails, which are made of the letters
of the axes.  The letters of a gantry differ, case aside, so each name belongs to
one slot; and only the third slot can be without a rail, where the coordinate
commanded last takes the place of a measurement.  With that, the coordinate that
is calculated from measurements is the one at which the rails stand there, and
in exact arithmetic calculating and setting a coordinate undo each other.
-/

/-! ## Names -/

theorem toLower_toUpper {letter : Char} (upper : letter.isUpper = true) :
    letter.toLower.toUpper = letter := by
  have ofCode : ∀ code < 128, (Char.ofNat code).isAlpha = true →
      (Char.ofNat code).isUpper = true →
      (Char.ofNat code).toLower.toUpper = Char.ofNat code := by decide
  apply letter_forall (fun letter => letter.isUpper = true → letter.toLower.toUpper = letter) ofCode
  · exact Bool.or_eq_true_iff.mpr (Or.inl upper)
  · exact upper

theorem lowered_toString (letter : Char) :
    Text.lowered letter.toString = letter.toLower.toString := by
  apply String.toList_inj.mp
  simp [Text.lowered]

/-- Two rails have the same name if they have the same letters, case aside. -/
theorem railName_eq_iff {key other : String} :
    railName key = railName other ↔ Text.lowered key = Text.lowered other :=
  String.append_right_inj _

/-- Rails of different upper-case letters have different names. -/
theorem eq_of_railName {first second : Char} (firstUpper : first.isUpper = true)
    (secondUpper : second.isUpper = true)
    (same : railName first.toString = railName second.toString) : first = second := by
  rw [railName_eq_iff, lowered_toString, lowered_toString] at same
  have lower : first.toLower = second.toLower := String.singleton_inj.mp same
  rw [← toLower_toUpper firstUpper, ← toLower_toUpper secondUpper, lower]

/-- The axes of two slots have different letters. -/
theorem AxisSet.letter_ne_of_axisAt (set : AxisSet) {slot other : Slot} (apart : slot ≠ other)
    {axis second : Axis} (held : set.axisAt slot = some axis)
    (heldSecond : set.axisAt other = some second) : axis.letter ≠ second.letter := by
  have different : axis ≠ second := by
    rintro rfl
    apply apart
    apply set.globalIndex_injective
    rw [← set.index_of_axisAt held, ← set.index_of_axisAt heldSecond]
  have symmetric : Std.Symm fun first second : Axis => first.letter ≠ second.letter :=
    ⟨fun _ _ => Ne.symm⟩
  exact set.arranged.letters.forall (List.mem_of_find?_eq_some held)
    (List.mem_of_find?_eq_some heldSecond) different

theorem AxisSet.upper_of_axisAt (set : AxisSet) {slot : Slot} {axis : Axis}
    (held : set.axisAt slot = some axis) : axis.letter.isUpper = true :=
  set.arranged.upper axis (List.mem_of_find?_eq_some held)

namespace Gantry

section

variable {α : Type}

/-- Every rail is named after the axis of its slot and has a stepper, and only the
third slot may be without a rail. -/
structure Labelled (gantry : Gantry α) : Prop where
  named : ∀ slot rail, gantry.rails.get slot = some rail →
    ∃ axis, gantry.axisSet.axisAt slot = some axis ∧ rail.name = railName axis.letter.toString
  driven : ∀ slot rail, gantry.rails.get slot = some rail → rail.steppers ≠ []
  paired : ∀ slot, gantry.rails.get slot = none → slot = .z

/-- The name of a rail tells its slot. -/
theorem Labelled.slot_of_name {gantry : Gantry α} (labelled : gantry.Labelled) {slot other : Slot}
    {rail second : Rail α} (held : gantry.rails.get slot = some rail)
    (heldSecond : gantry.rails.get other = some second) (same : rail.name = second.name) :
    slot = other := by
  rcases labelled.named slot rail held with ⟨axis, configured, name⟩
  rcases labelled.named other second heldSecond with ⟨axisSecond, configuredSecond, nameSecond⟩
  by_contra apart
  apply gantry.axisSet.letter_ne_of_axisAt apart configured configuredSecond
  apply eq_of_railName (gantry.axisSet.upper_of_axisAt configured)
    (gantry.axisSet.upper_of_axisAt configuredSecond)
  rw [← name, ← nameSecond, same]

section

variable {gantry : Gantry α} {measured : String → Option α} {slot : Slot}

theorem measuredAt_of_empty (empty : gantry.rails.get slot = none) :
    gantry.measuredAt measured slot = .ok (gantry.position.get slot) := by
  rw [measuredAt, empty]

theorem measuredAt_of_held {rail : Rail α} (held : gantry.rails.get slot = some rail) :
    gantry.measuredAt measured slot =
      (measured rail.name).elim (.error (.unknownRail rail.name)) .ok := by
  simp only [measuredAt, held]
  cases measured rail.name <;> rfl

end

/-- Measurements of all rails are taken slot by slot. -/
theorem exists_measuredAt {gantry : Gantry α} {measured : String → Option α}
    (complete : ∀ rail ∈ gantry.railList, (measured rail.name).isSome = true) (slot : Slot) :
    ∃ value, gantry.measuredAt measured slot = .ok value ∧
      ∀ rail, gantry.rails.get slot = some rail → measured rail.name = some value := by
  cases held : gantry.rails.get slot with
  | none => exact ⟨_, measuredAt_of_empty held, nofun⟩
  | some rail =>
    have listed := mem_railList_iff.mpr ⟨slot, held⟩
    rcases Option.isSome_iff_exists.mp (complete rail listed) with ⟨value, read⟩
    refine ⟨value, ?_, ?_⟩
    · rw [measuredAt_of_held held, read]
      rfl
    · rintro other ⟨⟩
      exact read

variable [Scalar α]

/-- A rail is found under its own name. -/
theorem Labelled.ownPositions {gantry : Gantry α} (labelled : gantry.Labelled) {rail : Rail α}
    (listed : rail ∈ gantry.railList) : gantry.ownPositions rail.name = some rail.position := by
  unfold Gantry.ownPositions
  cases found : gantry.railList.find? (·.name == rail.name) with
  | none =>
    have unnamed := List.find?_eq_none.mp found rail listed
    exact absurd (beq_self_eq_true rail.name) unnamed
  | some other =>
    rcases mem_railList_iff.mp listed with ⟨slot, held⟩
    rcases mem_railList_iff.mp (List.mem_of_find?_eq_some found) with ⟨otherSlot, heldOther⟩
    have named := List.find?_some found
    have sameSlot := labelled.slot_of_name heldOther held (beq_iff_eq.mp named)
    rw [sameSlot, held] at heldOther
    cases heldOther
    rfl

theorem labelled_of_build {toolhead : Toolhead α} {machine : Machine α} {number : Nat}
    {queue : Option MotionQueue} {letters : String} {indices : List Nat} {gantry : Gantry α}
    (built : (build toolhead machine number queue letters indices).value.1 = .ok gantry) :
    gantry.Labelled := by
  rcases furnished_of_build built with ⟨furnished, -⟩
  refine ⟨fun slot rail held => ?_, fun slot rail held => ?_, fun slot empty => ?_⟩
  · rcases (furnished.held slot).exists_axis held with ⟨axis, given, configured, -, made⟩
    exact ⟨axis, configured, made.name⟩
  · rcases (furnished.held slot).exists_axis held with ⟨axis, given, -, -, made⟩
    exact made.driven
  · rcases furnished.coupled.pair with ⟨first, second, atX, atY, -⟩
    cases slot with
    | x => simp [Triplet.get, atX] at empty
    | y => simp [Triplet.get, atY] at empty
    | z => rfl

/-- A moved rail keeps its name and the number of its steppers. -/
theorem Moved.exists_change {before after : Gantry α} {pushed? : Option (Point α)}
    (moved : before.Moved after pushed?) (slot : Slot) :
    ∃ change : Rail α → Rail α, after.rails.get slot = (before.rails.get slot).map change ∧
      ∀ rail, (change rail).name = rail.name ∧
        (change rail).steppers.length = rail.steppers.length := by
  rw [moved.rails]
  cases pushed? with
  | none => exact ⟨id, Option.map_id_apply.symm, fun rail => ⟨rfl, rfl⟩⟩
  | some coordinate =>
    exact ⟨(·.moveTo coordinate), Triplet.get_map _ _ slot, fun rail => ⟨rfl, List.length_map _⟩⟩

theorem Labelled.of_moved {before after : Gantry α} {pushed? : Option (Point α)}
    (labelled : before.Labelled) (moved : before.Moved after pushed?)
    (sameAxes : after.axisSet = before.axisSet) : after.Labelled where
  named := by
    intro slot rail held
    rcases moved.exists_change slot with ⟨change, same, kept⟩
    rw [same] at held
    rcases Option.map_eq_some_iff.mp held with ⟨earlier, was, rfl⟩
    rw [sameAxes, (kept earlier).1]
    exact labelled.named slot earlier was
  driven := by
    intro slot rail held
    rcases moved.exists_change slot with ⟨change, same, kept⟩
    rw [same] at held
    rcases Option.map_eq_some_iff.mp held with ⟨earlier, was, rfl⟩
    have driven := labelled.driven slot earlier was
    rwa [ne_eq, ← List.length_eq_zero_iff, (kept earlier).2, List.length_eq_zero_iff]
  paired := by
    intro slot empty
    rcases moved.exists_change slot with ⟨change, same, -⟩
    rw [same, Option.map_eq_none_iff] at empty
    exact labelled.paired slot empty

theorem Labelled.perform {gantry : Gantry α} (labelled : gantry.Labelled)
    (operation : Operation α) : (gantry.perform operation).value.2.Labelled :=
  labelled.of_moved (gantry.moved_perform operation) (gantry.sameRails_perform operation).axisSet

theorem Labelled.motorsOff {gantry : Gantry α} (labelled : gantry.Labelled) (time : α) :
    (gantry.motorsOff time).value.Labelled :=
  ⟨labelled.named, labelled.driven, labelled.paired⟩

/-! ## Calculating and setting a coordinate -/

theorem calcPosition_of_measuredAt {gantry : Gantry α} {measured : String → Option α}
    {rails : Triplet α} (located : ∀ slot, gantry.measuredAt measured slot = .ok (rails.get slot)) :
    gantry.calcPosition measured = .ok (forward rails) := by
  unfold calcPosition
  rw [located .x, located .y, located .z]
  rfl

/-- Where the rails stand that are in step with a coordinate: each with steppers at the
position that its slot has there. -/
theorem InStep.position_eq {gantry : Gantry α} (inStep : gantry.InStep) (labelled : gantry.Labelled)
    {slot : Slot} {rail : Rail α} (held : gantry.rails.get slot = some rail) :
    rail.position = (railPositions gantry.position).get slot := by
  rw [railPositions, Triplet.get_ofSlots]
  unfold Rail.position
  cases listed : rail.steppers with
  | nil => exact absurd listed (labelled.driven slot rail held)
  | cons first rest =>
    apply (inStep slot rail held first _).2
    rw [listed]
    exact List.mem_cons_self

/-- A coordinate that is set takes the rails to the positions of their slots. -/
theorem InStep.position_setPosition {gantry : Gantry α} (inStep : gantry.InStep)
    (labelled : gantry.Labelled) (coordinate : Point α) {slot : Slot} {earlier : Rail α}
    (held : gantry.rails.get slot = some earlier) :
    ∃ rail, (gantry.setPosition coordinate []).value.2.rails.get slot = some rail ∧
      rail.name = earlier.name ∧ rail.position = (railPositions coordinate).get slot := by
  have moved := gantry.moved_setPosition coordinate []
  have after : (gantry.setPosition coordinate []).value.2.rails.get slot =
      some (earlier.moveTo coordinate) := by
    rw [moved.rails]
    exact (Triplet.get_map _ _ _).trans (congrArg _ held)
  refine ⟨_, after, rfl, ?_⟩
  rw [(inStep.of_moved moved).position_eq (labelled.of_moved moved rfl) after, moved.position]
  rfl

end

/-! ## Exact arithmetic -/

variable {K : Type} [Field K] [LinearOrder K] [IsStrictOrderedRing K] {gantry : Gantry K}

/-- From the positions of the rails themselves, the kept coordinate is calculated. -/
theorem InStep.calcPosition (inStep : gantry.InStep) (labelled : gantry.Labelled)
    {measured : String → Option K}
    (own : ∀ rail ∈ gantry.railList, measured rail.name = some rail.position) :
    gantry.calcPosition measured = .ok gantry.position := by
  have located (slot : Slot) : gantry.measuredAt measured slot =
      .ok ((railPositions gantry.position).get slot) := by
    cases held : gantry.rails.get slot with
    | none =>
      rw [measuredAt_of_empty held, labelled.paired slot held]
      rfl
    | some rail =>
      rw [measuredAt_of_held held, own rail (mem_railList_iff.mpr ⟨slot, held⟩),
        inStep.position_eq labelled held]
      rfl
  rw [calcPosition_of_measuredAt located, forward_railPositions]

/-- A coordinate is calculated from any measurements of all rails, and where it is
set, the rails stand as measured. -/
theorem InStep.setPosition_calcPosition (inStep : gantry.InStep) (labelled : gantry.Labelled)
    {measured : String → Option K}
    (complete : ∀ rail ∈ gantry.railList, (measured rail.name).isSome = true) :
    ∃ coordinate, gantry.calcPosition measured = .ok coordinate ∧
      (gantry.setPosition coordinate []).value.1 = .ok () ∧
      ∀ slot earlier, gantry.rails.get slot = some earlier →
        ∃ rail, (gantry.setPosition coordinate []).value.2.rails.get slot = some rail ∧
          rail.name = earlier.name ∧ measured rail.name = some rail.position := by
  choose values located measuredAs using exists_measuredAt complete
  have calculated : gantry.calcPosition measured = .ok (forward (Triplet.ofSlots values)) := by
    apply calcPosition_of_measuredAt
    intro slot
    rw [located, Triplet.get_ofSlots]
  refine ⟨_, calculated, rfl, fun slot earlier held => ?_⟩
  rcases inStep.position_setPosition labelled _ held with ⟨rail, after, name, position⟩
  refine ⟨rail, after, name, ?_⟩
  rw [name, measuredAs slot earlier held, position, railPositions_forward, Triplet.get_ofSlots]

end Gantry

end BeltGantry

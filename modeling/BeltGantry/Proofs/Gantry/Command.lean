import BeltGantry.Proofs.Gantry.Furnishing
import BeltGantry.Proofs.Gantry.Touch
namespace BeltGantry

/-!
# Commanded positions

The coordinate commanded last is kept twice: by the gantry as it was given, and
by each stepper as its binding makes it of the coordinate.  The two are in step
when every stepper of a slot stands where the binding of the slot puts the kept
coordinate.  A new gantry is in step if all bindings put the origin at zero,
which is so of binary64.  From then on it stays in step, since a coordinate is
pushed to all steppers or to none.

`Moved` says what an operation does to both: it pushes the coordinate that
`pushed?` reads off the answer, or leaves rails and coordinate alone.
-/

variable {α : Type}

namespace Operation

/-- The coordinate that an operation pushes to the rails, in view of the answer: the
one of a setting that succeeds, also of one at the end of homing. -/
def pushed? : Operation α → Reply α → Option (Point α)
  | .setPosition position _, .done (.ok ()) => some position
  | .home .., .homed ⟨_, _, finalPosition, some (.ok ())⟩ => some finalPosition
  | _, _ => none

end Operation

variable [Scalar α]

namespace Rail

/-- Every stepper of a rail has the binding and stands where it puts a coordinate. -/
def Follows (rail : Rail α) (binding : Binding) (coordinate : Point α) : Prop :=
  ∀ stepper ∈ rail.steppers,
    stepper.binding = some binding ∧ stepper.position = binding.railPosition coordinate

/-- A pushed coordinate reaches every stepper, whatever it followed before. -/
theorem Follows.moveTo {rail : Rail α} {binding : Binding} {earlier : Point α}
    (follows : rail.Follows binding earlier) (coordinate : Point α) :
    (rail.moveTo coordinate).Follows binding coordinate := by
  intro stepper listed
  rcases List.mem_map.mp listed with ⟨before, was, rfl⟩
  unfold Stepper.moveTo
  rw [(follows before was).1]
  exact ⟨rfl, rfl⟩

end Rail

/-- Whether every binding puts the origin at zero, where new steppers stand. -/
def OriginRests (α : Type) [Scalar α] : Prop :=
  ∀ binding : Binding, binding.railPosition (Triplet.const (0.0 : α)) = 0.0

theorem originRests_binary64 : OriginRests Float := by
  intro binding
  cases binding <;> decide +kernel

namespace Gantry

/-- Every stepper stands where the binding of its slot puts the coordinate commanded
last. -/
def InStep (gantry : Gantry α) : Prop :=
  ∀ slot rail, gantry.rails.get slot = some rail →
    rail.Follows (Binding.ofSlot slot) gantry.position

/-- How a gantry comes out of an event that pushed a coordinate, or none. -/
structure Moved (before after : Gantry α) (pushed? : Option (Point α)) : Prop where
  position : after.position = pushed?.getD before.position
  rails : after.rails = match pushed? with
    | none => before.rails
    | some coordinate => before.rails.map (Option.map (·.moveTo coordinate))

theorem Moved.refl (gantry : Gantry α) : gantry.Moved gantry none := ⟨rfl, rfl⟩

theorem InStep.of_moved {before after : Gantry α} {pushed? : Option (Point α)}
    (inStep : before.InStep) (moved : before.Moved after pushed?) : after.InStep := by
  intro slot rail held
  rw [moved.rails] at held
  rw [moved.position]
  cases pushed? with
  | none => exact inStep slot rail held
  | some coordinate =>
    simp only [Triplet.get_map] at held
    rcases Option.map_eq_some_iff.mp held with ⟨earlier, was, rfl⟩
    exact (inStep slot earlier was).moveTo coordinate

theorem position_of_build {toolhead : Toolhead α} {machine : Machine α} {number : Nat}
    {queue : Option MotionQueue} {letters : String} {indices : List Nat} {gantry : Gantry α}
    (built : (build toolhead machine number queue letters indices).value.1 = .ok gantry) :
    gantry.position = Triplet.const 0.0 := by
  rcases stages_of_build built with ⟨set, assembly, caps, -, -, -, rfl⟩
  rfl

theorem inStep_of_build (rests : OriginRests α) {toolhead : Toolhead α} {machine : Machine α}
    {number : Nat} {queue : Option MotionQueue} {letters : String} {indices : List Nat}
    {gantry : Gantry α}
    (built : (build toolhead machine number queue letters indices).value.1 = .ok gantry) :
    gantry.position = Triplet.const 0.0 ∧ gantry.InStep := by
  have position := position_of_build built
  refine ⟨position, fun slot rail held stepper listed => ?_⟩
  rcases ((furnished_of_build built).1.held slot).exists_axis held with ⟨_, _, -, -, made⟩
  rw [made.steppers] at listed
  rcases List.mem_map.mp listed with ⟨ref, -, rfl⟩
  rw [position, rests]
  exact ⟨rfl, rfl⟩

/-! ## What operations push -/

theorem moved_setPosition (gantry : Gantry α) (position : Point α) (axes : List Nat) :
    gantry.Moved (gantry.setPosition position axes).value.2
      (Operation.pushed? (.setPosition position axes)
        (.done (gantry.setPosition position axes).value.1)) := by
  rw [value_setPosition]
  cases gantry.slotsOf axes with
  | error fault => exact Moved.refl gantry
  | ok slots => exact ⟨rfl, rfl⟩

theorem moved_forgetAxis (gantry : Gantry α) (axis : Nat) :
    gantry.Moved (gantry.forgetAxis axis).value.2 none := by
  rw [value_forgetAxis]
  cases gantry.axisSet.slotOf axis <;> exact ⟨rfl, rfl⟩

/-- An operation pushes the coordinate that its answer tells of, and no other. -/
theorem moved_perform (gantry : Gantry α) (operation : Operation α) :
    gantry.Moved (gantry.perform operation).value.2
      (operation.pushed? (gantry.perform operation).value.1) := by
  cases operation with
  | setPosition position axes => exact gantry.moved_setPosition position axes
  | forgetAxis axis => exact gantry.moved_forgetAxis axis
  | home homing apply =>
    let after := (gantry.home SimulatedHoming.host homing).value.2
    let final := after.finalPosition gantry.axisSet.triplet
    rcases gantry.perform_home_cases homing apply with set | left
    · have moved := gantry.moved_setPosition final after.homedAxes
      rw [set]
      cases answer : (gantry.setPosition final after.homedAxes).value.1 <;>
        simpa [Operation.pushed?, answer, after, final] using moved
    · rw [left]
      exact Moved.refl gantry
  | _ => exact ⟨rfl, rfl⟩

theorem moved_motorsOff (gantry : Gantry α) (time : α) :
    gantry.Moved (gantry.motorsOff time).value none := ⟨rfl, rfl⟩

end Gantry

end BeltGantry

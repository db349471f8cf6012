import BeltGantry.Proofs.Rail.Making
namespace BeltGantry

/-!
# Renumbered rails

Handles tell steppers apart and do nothing else, so it does not matter which
numbers the rails have.  To renumber is to add one distance to the number in every
handle.  Everything that is done to rails, making them included, commutes with it:
an endstop compares handles only with each other, and two handles are the same
before exactly if they are the same after.
-/

namespace StepperHandle

/-- The handle of the same place on the rail that lies further on by a distance. -/
def renumber (distance : Nat) (handle : StepperHandle) : StepperHandle :=
  { handle with rail := distance + handle.rail }

theorem renumber_injective (distance : Nat) : Function.Injective (renumber distance) := by
  intro first second same
  rcases StepperHandle.mk.inj same with ⟨rail, place⟩
  cases first
  cases second
  rw [StepperHandle.mk.injEq]
  exact ⟨Nat.add_left_cancel rail, place⟩

end StepperHandle

def StepperRef.renumber (distance : Nat) (ref : StepperRef) : StepperRef :=
  { ref with handle := ref.handle.renumber distance }

theorem numberedRefs_add (distance number : Nat) (names : List String) :
    numberedRefs (distance + number) names =
      (numberedRefs number names).map (StepperRef.renumber distance) := by
  unfold numberedRefs
  rw [List.map_map]
  rfl

namespace Endstop

def renumber (distance : Nat) (endstop : Endstop) : Endstop :=
  { endstop with stops := endstop.stops.map (StepperRef.renumber distance) }

theorem holds_renumber (distance : Nat) (endstop : Endstop) (stepper : StepperRef) :
    (endstop.renumber distance).holds (stepper.renumber distance) = endstop.holds stepper := by
  unfold holds renumber
  rw [List.any_map]
  apply List.any_congr rfl
  intro other
  have same : (other.renumber distance).handle = (stepper.renumber distance).handle ↔
      other.handle = stepper.handle := (StepperHandle.renumber_injective distance).eq_iff
  simp [same]

theorem add_renumber (distance : Nat) (endstop : Endstop) (stepper : StepperRef) :
    (endstop.renumber distance).add (stepper.renumber distance) =
      (endstop.add stepper).renumber distance := by
  unfold add
  rw [holds_renumber]
  cases endstop.holds stepper with
  | true => rfl
  | false => simp [renumber]

theorem addAll_renumber (distance : Nat) (endstop : Endstop) (steppers : List StepperRef) :
    (endstop.renumber distance).addAll (steppers.map (StepperRef.renumber distance)) =
      (endstop.addAll steppers).renumber distance := by
  induction steppers generalizing endstop with
  | nil => rfl
  | cons first rest inductionHypothesis =>
    change ((endstop.renumber distance).add (first.renumber distance)).addAll _ = _
    rw [add_renumber]
    exact inductionHypothesis (endstop.add first)

end Endstop

variable {α : Type}

def Stepper.renumber (distance : Nat) (stepper : Stepper α) : Stepper α :=
  { stepper with ref := stepper.ref.renumber distance }

theorem Stepper.moveTo_renumber [Scalar α] (distance : Nat) (stepper : Stepper α)
    (coordinate : Point α) :
    (stepper.renumber distance).moveTo coordinate =
      (stepper.moveTo coordinate).renumber distance := by
  rcases stepper with ⟨ref, binding, queue, position⟩
  cases binding <;> rfl

namespace Rail

def renumber (distance : Nat) (rail : Rail α) : Rail α :=
  { rail with
    endstop := rail.endstop.renumber distance
    steppers := rail.steppers.map (Stepper.renumber distance) }

theorem refs_renumber (distance : Nat) (rail : Rail α) :
    (rail.renumber distance).refs = rail.refs.map (StepperRef.renumber distance) := by
  unfold refs renumber
  rw [List.map_map, List.map_map]
  rfl

theorem coupledTo_renumber (distance : Nat) (rail other : Rail α) :
    (rail.renumber distance).coupledTo (other.renumber distance) =
      (rail.coupledTo other).renumber distance := by
  unfold coupledTo
  rw [refs_renumber]
  exact congrArg (fun endstop => { rail.renumber distance with endstop := endstop })
    (Endstop.addAll_renumber distance rail.endstop other.refs)

/-- A change of the steppers that does not look at their handles commutes with
renumbering them. -/
theorem map_renumber (distance : Nat) (rail : Rail α) (change : Stepper α → Stepper α)
    (blind : ∀ stepper, change (stepper.renumber distance) = (change stepper).renumber distance) :
    (rail.renumber distance).steppers.map change =
      (rail.steppers.map change).map (Stepper.renumber distance) := by
  unfold renumber
  rw [List.map_map, List.map_map]
  exact List.map_congr_left fun stepper _ => blind stepper

theorem bind_renumber (distance : Nat) (rail : Rail α) (binding : Binding) :
    (rail.renumber distance).bind binding = (rail.bind binding).renumber distance :=
  congrArg (fun steppers =>
    { rail.renumber distance with binding := some binding, steppers := steppers })
    (map_renumber distance rail (·.bind binding) fun _ => rfl)

theorem attach_renumber (distance : Nat) (rail : Rail α) (queue : MotionQueue) :
    (rail.renumber distance).attach queue = (rail.attach queue).renumber distance :=
  congrArg (fun steppers => { rail.renumber distance with steppers := steppers })
    (map_renumber distance rail (·.attach queue) fun _ => rfl)

variable [Scalar α]

/-- A rail that is made under another number is the same rail renumbered. -/
theorem ofSection_add (distance number : Nat) (letter : Char) (given : RailSection α) :
    ofSection (distance + number) letter given =
      (ofSection number letter given).map (renumber distance) := by
  unfold ofSection
  cases given.validate with
  | error cause => rfl
  | ok _ =>
    cases given.homingDirection with
    | error cause => rfl
    | ok positiveDir =>
      let name := railName letter.toString
      let refs := numberedRefs number (given.stepperNames name)
      have endstop := Endstop.addAll_renumber distance ⟨name, []⟩ refs
      have steppers : (refs.map (StepperRef.renumber distance)).map Stepper.fresh =
          (refs.map (Stepper.fresh : StepperRef → Stepper α)).map (Stepper.renumber distance) := by
        rw [List.map_map, List.map_map]
        rfl
      rw [← numberedRefs_add] at endstop steppers
      apply congrArg Except.ok
      rw [Rail.mk.injEq]
      exact ⟨rfl, rfl, rfl, rfl, rfl, endstop, steppers, rfl⟩

end Rail

end BeltGantry

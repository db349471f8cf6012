import BeltGantry.Proofs.Gantry.Construction
namespace BeltGantry

/-!
# What a new gantry holds

Each axis of a new gantry has a rail of its letter, bound as the slot demands
and attached to the queue of the gantry, with all of its steppers; a dummy has
none.  The rails of the pair stop each other's steppers, the third rail stops its
own.  All handles of the gantry are distinct and carry its number, so no stepper
stands on two rails and none belongs to another gantry.
-/

variable {α : Type}

namespace Gantry

theorem railList_eq (gantry : Gantry α) :
    gantry.railList = Slot.all.filterMap gantry.rails.get := rfl

theorem mem_railList_iff {gantry : Gantry α} {rail : Rail α} :
    rail ∈ gantry.railList ↔ ∃ slot, gantry.rails.get slot = some rail := by
  rw [railList_eq, List.mem_filterMap]
  constructor
  · rintro ⟨slot, -, held⟩
    exact ⟨slot, held⟩
  · rintro ⟨slot, held⟩
    exact ⟨slot, slot.mem_all, held⟩

/-- What holds between the rails of different slots holds between any two rails. -/
theorem pairwise_railList {gantry : Gantry α} {relation : Rail α → Rail α → Prop}
    (apart : ∀ slot other, slot ≠ other → ∀ rail, gantry.rails.get slot = some rail →
      ∀ second, gantry.rails.get other = some second → relation rail second) :
    gantry.railList.Pairwise relation := by
  rw [railList_eq]
  apply List.Pairwise.filterMap gantry.rails.get (apart · ·)
  exact (by decide : Slot.all.Pairwise (· ≠ ·))

/-- References to the steppers of all rails, in slot order. -/
def refs (gantry : Gantry α) : List StepperRef := gantry.steppers.map Stepper.ref

theorem refs_eq (gantry : Gantry α) : gantry.refs = gantry.railList.flatMap Rail.refs := by
  unfold refs steppers
  rw [List.map_flatMap]
  rfl

theorem mem_refs_iff {gantry : Gantry α} {ref : StepperRef} :
    ref ∈ gantry.refs ↔ ∃ slot rail, gantry.rails.get slot = some rail ∧ ref ∈ rail.refs := by
  rw [refs_eq, List.mem_flatMap]
  constructor
  · rintro ⟨rail, listed, onRail⟩
    rcases mem_railList_iff.mp listed with ⟨slot, held⟩
    exact ⟨slot, rail, held, onRail⟩
  · rintro ⟨slot, rail, held, onRail⟩
    exact ⟨rail, mem_railList_iff.mpr ⟨slot, held⟩, onRail⟩

variable [Scalar α]

/-- What building leaves in the slots of a gantry of a number. -/
structure Furnished (gantry : Gantry α) (machine : Machine α) (number : Nat) : Prop where
  held : ∀ slot, Assembly.Describes machine number gantry.axisSet slot
    (some (Binding.ofSlot slot)) (some gantry.queue) (gantry.rails.get slot)
  coupled : Assembly.Coupled gantry.rails

variable {gantry : Gantry α} {machine : Machine α} {number : Nat}

theorem Furnished.numbered (furnished : gantry.Furnished machine number) {ref : StepperRef}
    (listed : ref ∈ gantry.refs) : ref.handle.rail / tripletSize = number := by
  rcases mem_refs_iff.mp listed with ⟨slot, rail, held, onRail⟩
  rcases (furnished.held slot).exists_axis held with ⟨_, _, -, -, made⟩
  rw [made.rail_of_mem (List.mem_map_of_mem onRail)]
  have inside := slot.index_lt
  unfold tripletSize
  omega

/-- No stepper comes twice in a new gantry. -/
theorem Furnished.nodup (furnished : gantry.Furnished machine number) :
    (gantry.refs.map StepperRef.handle).Nodup := by
  rw [refs_eq, List.map_flatMap, List.nodup_flatMap]
  constructor
  · intro rail listed
    rcases mem_railList_iff.mp listed with ⟨slot, held⟩
    rcases (furnished.held slot).exists_axis held with ⟨_, _, -, -, made⟩
    exact made.nodup
  · apply pairwise_railList
    intro slot other different rail held second heldSecond
    rcases (furnished.held slot).exists_axis held with ⟨_, _, -, -, made⟩
    rcases (furnished.held other).exists_axis heldSecond with ⟨_, _, -, -, madeSecond⟩
    apply made.disjoint madeSecond
    intro same
    apply different
    cases slot <;> cases other <;> simp [Slot.index] at same ⊢

theorem furnished_fresh {toolhead : Toolhead α} {queue : Option MotionQueue} {set : AxisSet}
    {assembly : Assembly α}
    (made : Assembly.make toolhead machine number queue set = .ok assembly) (caps : ZCaps α) :
    (fresh toolhead set assembly caps).Furnished machine number ∧
      assembly.queue = queue.getD (Toolhead.queueFor set.letters) := by
  rcases Assembly.describes_of_make made with ⟨describes, coupled, served⟩
  exact ⟨⟨describes, coupled⟩, served⟩

theorem refs_fresh (toolhead : Toolhead α) (set : AxisSet) (assembly : Assembly α)
    (caps : ZCaps α) : (fresh toolhead set assembly caps).refs = assembly.refs :=
  refs_eq _

/-- A gantry that was built is furnished, and its steppers are registered. -/
theorem furnished_of_build {toolhead : Toolhead α} {queue : Option MotionQueue}
    {letters : String} {indices : List Nat}
    (built : (build toolhead machine number queue letters indices).value.1 = .ok gantry) :
    gantry.Furnished machine number ∧
      gantry.queue = queue.getD (Toolhead.queueFor gantry.axisSet.letters) ∧
      (build toolhead machine number queue letters indices).value.2 =
        toolhead.register gantry.refs := by
  rcases stages_of_build built with ⟨set, assembly, caps, arranged, made, capped, rfl⟩
  rcases furnished_fresh made caps with ⟨furnished, served⟩
  refine ⟨furnished, served, ?_⟩
  rw [value_build, refs_fresh]
  simp only [arranged, made, capped]

/-- Whether a build succeeds or not, it registers either nothing or all steppers of a
furnished gantry. -/
theorem register_of_build (toolhead : Toolhead α) (machine : Machine α) (number : Nat)
    (queue : Option MotionQueue) (letters : String) (indices : List Nat) :
    (build toolhead machine number queue letters indices).value.2 = toolhead ∨
      ∃ gantry : Gantry α, gantry.Furnished machine number ∧
        (build toolhead machine number queue letters indices).value.2 =
          toolhead.register gantry.refs := by
  rw [value_build]
  cases AxisSet.arrange letters indices with
  | error fault => exact Or.inl rfl
  | ok set =>
    cases made : Assembly.make toolhead machine number queue set with
    | error cause =>
      left
      simp [made]
    | ok assembly =>
      -- The caps do not matter to the rails, so any will do when they are refused.
      let caps : ZCaps α := ⟨toolhead.maxVelocity, toolhead.maxAccel⟩
      refine Or.inr ⟨fresh toolhead set assembly caps, (furnished_fresh made caps).1, ?_⟩
      rw [refs_fresh]
      cases ZCaps.ofSection toolhead machine.kinematics <;> simp [made]

end Gantry

end BeltGantry

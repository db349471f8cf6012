import BeltGantry.Axis
namespace BeltGantry.AxisSet

/-!
# Slots and axis numbers

The axis numbers of a triplet and its slots determine each other.  A slot that
is no dummy holds the axis of its own number, so looking up the slot of a
configured number is the inverse of `globalIndex`; numbers of dummies and of
other triplets have no slot.

Two axis sets have the same layout if they have the same triplet with the same axes in
its slots.  The order of configuration is all that may set them apart.
-/

variable (set : AxisSet)

theorem globalIndex_injective {first second : Slot}
    (same : set.globalIndex first = set.globalIndex second) : first = second := by
  cases first <;> cases second <;> simp [globalIndex, Slot.index] at same ⊢

/-- The axis of a slot has the number of the slot. -/
theorem index_of_axisAt {slot : Slot} {axis : Axis} (held : set.axisAt slot = some axis) :
    axis.index = set.globalIndex slot := by
  have found := List.find?_some held
  exact beq_iff_eq.mp found

theorem isDummy_eq_false_iff {slot : Slot} :
    set.isDummy slot = false ↔ ∃ axis, set.axisAt slot = some axis := by
  unfold isDummy
  rw [Option.isNone_eq_false_iff, Option.isSome_iff_exists]

/-- Whether a slot answers to a number: it holds an axis, and the number is its own. -/
theorem any_axisAt_iff {slot : Slot} {index : Nat} :
    (set.axisAt slot).any (·.index == index) = true ↔
      set.isDummy slot = false ∧ set.globalIndex slot = index := by
  rw [isDummy_eq_false_iff, Option.any_eq_true]
  constructor
  · rintro ⟨axis, held, same⟩
    exact ⟨⟨axis, held⟩, (set.index_of_axisAt held).symm.trans (beq_iff_eq.mp same)⟩
  · rintro ⟨⟨axis, held⟩, same⟩
    exact ⟨axis, held, beq_iff_eq.mpr ((set.index_of_axisAt held).trans same)⟩

theorem answers_of_slotOf {index : Nat} {slot : Slot} (found : set.slotOf index = some slot) :
    set.isDummy slot = false ∧ set.globalIndex slot = index := by
  have answered := List.find?_some found
  exact set.any_axisAt_iff.mp answered

/-- A number has the slot that it belongs to, if that slot is no dummy. -/
theorem slotOf_eq_some_iff {index : Nat} {slot : Slot} :
    set.slotOf index = some slot ↔ set.isDummy slot = false ∧ set.globalIndex slot = index := by
  constructor
  · exact set.answers_of_slotOf
  · intro answers
    -- The first slot that answers to the number is the only one that does.
    cases found : set.slotOf index with
    | none =>
        have unanswered := List.find?_eq_none.mp found slot slot.mem_all
        exact absurd (set.any_axisAt_iff.mpr answers) unanswered
    | some other =>
        have otherAnswers := set.answers_of_slotOf found
        have same := set.globalIndex_injective (otherAnswers.2.trans answers.2.symm)
        rw [same]

/-- Every number of a triplet belongs to a slot: its place in the triplet. -/
theorem exists_slot {number index : Nat} (together : index / tripletSize = number) :
    ∃ slot, Slot.ofIndex? (index % tripletSize) = some slot ∧
      tripletSize * number + slot.index = index := by
  have inside : index % tripletSize < 3 := Nat.mod_lt index (by decide)
  have split := Nat.div_add_mod index tripletSize
  rw [together] at split
  generalize index % tripletSize = place at inside split
  match place, inside with
  | 0, _ => exact ⟨.x, rfl, split⟩
  | 1, _ => exact ⟨.y, rfl, split⟩
  | 2, _ => exact ⟨.z, rfl, split⟩

theorem exists_globalIndex {axis : Axis} (listed : axis ∈ set.axes) :
    ∃ slot, set.globalIndex slot = axis.index := by
  rcases exists_slot (set.arranged.together axis listed) with ⟨slot, -, same⟩
  exact ⟨slot, same⟩

/-- Every configured number has a slot. -/
theorem slotOf_ne_none {index : Nat} (listed : index ∈ set.indices) :
    set.slotOf index ≠ none := by
  rcases List.mem_map.mp listed with ⟨axis, axisListed, rfl⟩
  rcases set.exists_globalIndex axisListed with ⟨slot, same⟩
  have configured : set.isDummy slot = false := by
    unfold isDummy axisAt
    rw [Option.isNone_eq_false_iff, List.find?_isSome]
    exact ⟨axis, axisListed, beq_iff_eq.mpr same.symm⟩
  rw [set.slotOf_eq_some_iff.mpr ⟨configured, same⟩]
  exact Option.some_ne_none slot

/-- The configured numbers are those of the slots that are no dummies. -/
theorem globalIndex_mem_indices_iff {slot : Slot} :
    set.globalIndex slot ∈ set.indices ↔ set.isDummy slot = false := by
  constructor
  · intro listed
    rcases Option.ne_none_iff_exists'.mp (set.slotOf_ne_none listed) with ⟨other, found⟩
    rcases set.answers_of_slotOf found with ⟨configured, same⟩
    rwa [set.globalIndex_injective same] at configured
  · intro configured
    rcases set.isDummy_eq_false_iff.mp configured with ⟨axis, held⟩
    rw [← set.index_of_axisAt held]
    exact List.mem_map_of_mem (List.mem_of_find?_eq_some held)

theorem slotOf_eq_none_iff {index : Nat} : set.slotOf index = none ↔ index ∉ set.indices := by
  constructor
  · intro slotless listed
    exact set.slotOf_ne_none listed slotless
  · intro unlisted
    cases found : set.slotOf index with
    | none => rfl
    | some slot =>
      rcases set.answers_of_slotOf found with ⟨configured, same⟩
      exact absurd (same ▸ set.globalIndex_mem_indices_iff.mpr configured) unlisted

/-! ## Layout -/

/-- The same triplet, with the same axes in its slots. -/
structure SameLayout (first second : AxisSet) : Prop where
  number : second.number = first.number
  axisAt : ∀ slot, second.axisAt slot = first.axisAt slot

theorem SameLayout.refl (set : AxisSet) : set.SameLayout set := ⟨rfl, fun _ => rfl⟩

namespace SameLayout

variable {first second : AxisSet} (same : first.SameLayout second)

include same

theorem symm : second.SameLayout first where
  number := same.number.symm
  axisAt := fun slot => (same.axisAt slot).symm

theorem globalIndex : second.globalIndex = first.globalIndex := by
  funext slot
  unfold AxisSet.globalIndex
  rw [same.number]

theorem triplet : second.triplet = first.triplet := by
  unfold AxisSet.triplet
  rw [same.globalIndex]

theorem slotOf : second.slotOf = first.slotOf := by
  funext index
  unfold AxisSet.slotOf
  simp only [same.axisAt]

theorem isDummy : second.isDummy = first.isDummy := by
  funext slot
  unfold AxisSet.isDummy
  rw [same.axisAt]

theorem slotLetter : second.slotLetter = first.slotLetter := by
  funext slot
  unfold AxisSet.slotLetter
  rw [same.axisAt, same.globalIndex]

theorem dummyAxes : second.dummyAxes = first.dummyAxes := by
  unfold AxisSet.dummyAxes
  rw [same.isDummy, same.globalIndex, same.slotLetter]

end SameLayout

end BeltGantry.AxisSet

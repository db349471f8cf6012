import BeltGantry.Proofs.Gantry.Construction
import BeltGantry.Proofs.Gantry.Touch
namespace BeltGantry.Gantry

/-!
# The invariant of a gantry

A sound gantry has a rail in every slot that is no dummy, and none elsewhere.
Its limits are never anything between homed and not: each is the unhomed limit
or the range of the rail in its slot, so a dummy is never homed.  Building
yields a sound gantry, and whatever only touches limits keeps it sound.
-/

variable {α : Type} [Scalar α]

structure Sound (gantry : Gantry α) : Prop where
  fitted : ∀ slot, (gantry.railRange? slot).isSome = !gantry.axisSet.isDummy slot
  bounded : ∀ slot, gantry.limits.get slot = Limit.unhomed ∨
    gantry.railRange? slot = some (gantry.limits.get slot)

/-- A slot whose limit is not the unhomed one has that limit as its rail's range. -/
theorem Sound.railRange?_of_ne {gantry : Gantry α} (sound : gantry.Sound) {slot : Slot}
    (homed : gantry.limits.get slot ≠ Limit.unhomed) :
    gantry.railRange? slot = some (gantry.limits.get slot) :=
  (sound.bounded slot).resolve_left homed

theorem isSome_of_holds {machine : Machine α} {set : AxisSet} {slot : Slot}
    {held : Option (Rail α)} (holds : Assembly.Holds machine set slot held) :
    held.isSome = !set.isDummy slot := by
  unfold Assembly.Holds at holds
  unfold AxisSet.isDummy
  cases configured : set.axisAt slot with
  | none =>
    simp only [configured] at holds
    rw [holds]
    rfl
  | some axis =>
    simp only [configured] at holds
    rcases holds with ⟨_, rail, -, same, -⟩
    rw [same]
    rfl

theorem limits_of_build {toolhead : Toolhead α} {machine : Machine α} {number : Nat}
    {queue : Option MotionQueue} {letters : String} {indices : List Nat} {gantry : Gantry α}
    (built : (build toolhead machine number queue letters indices).value.1 = .ok gantry)
    (slot : Slot) : gantry.limits.get slot = Limit.unhomed := by
  rcases stages_of_build built with ⟨set, assembly, caps, -, -, -, same⟩
  rw [same]
  exact Triplet.get_const _ slot

theorem sound_of_build {toolhead : Toolhead α} {machine : Machine α} {number : Nat}
    {queue : Option MotionQueue} {letters : String} {indices : List Nat} {gantry : Gantry α}
    (built : (build toolhead machine number queue letters indices).value.1 = .ok gantry) :
    gantry.Sound := by
  refine ⟨fun slot => ?_, fun slot => Or.inl (limits_of_build built slot)⟩
  unfold railRange?
  rw [Option.isSome_map]
  exact isSome_of_holds (holds_of_build built slot)

/-- Touching limits, and nothing else, keeps a gantry sound. -/
theorem Sound.of_touched {before after : Gantry α} (sound : before.Sound)
    (same : before.SameRails after) (touch? : Slot → Option Touch)
    (limits : ∀ slot, after.limits.get slot = before.touched slot (touch? slot)) :
    after.Sound where
  fitted := by
    intro slot
    rw [same.railRange? slot, same.axisSet]
    exact sound.fitted slot
  bounded := by
    intro slot
    rw [limits slot, same.railRange? slot]
    cases touch? slot with
    | none => exact sound.bounded slot
    | some touch =>
      cases touch with
      | forgotten => exact Or.inl rfl
      | homed =>
        cases ranged : before.railRange? slot with
        | some range => exact Or.inr (congrArg some (touched_homed ranged).symm)
        | none => simpa [touched, ranged] using sound.bounded slot

/-- The loss of power takes back every limit. -/
theorem limits_motorsOff (gantry : Gantry α) (time : α) (slot : Slot) :
    (gantry.motorsOff time).value.limits.get slot = gantry.touched slot (some .forgotten) :=
  Triplet.get_const _ slot

end BeltGantry.Gantry

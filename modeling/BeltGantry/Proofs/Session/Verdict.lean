import Mathlib.Data.List.Basic
import BeltGantry.Proofs.Move.Admission
import BeltGantry.Proofs.Scalar.Binary64
import BeltGantry.Proofs.Session.Step
namespace BeltGantry

/-!
# What a status says about a move

A status and the check of a move read different data: the one the ranges of the
rails and the configured axes, the other the limits.  In a session without
direct writes they agree all the same, so that whoever reads a status can tell
the answer to every move.  Two facts carry this.  A limit is the range of its
rail unless the slot is not homed, which is the invariant of a gantry.  And an
interval whose ends are the wrong way round, or not ordered at all, contains no
position; this needs comparisons that chain, as those of binary64 do.
-/

namespace Limit

/-- An interval that contains a position has its ends the right way round. -/
theorem isHomed_of_contains {limit : Limit Float} {position : Float}
    (inside : limit.contains position = true) : limit.isHomed = true := by
  rcases Bool.and_eq_true_iff.mp inside with ⟨above, below⟩
  exact decide_eq_true (Binary64.le_trans (of_decide_eq_true above) (of_decide_eq_true below))

theorem isHomed_unhomed : (unhomed : Limit Float).isHomed = false := by
  decide

end Limit

theorem Slot.letter_injective : Function.Injective Slot.letter := by
  intro first second
  cases first <;> cases second <;> decide

namespace Status

variable {α : Type} [Scalar α]

/-- Whether the letter of a slot is among the published ones. -/
def lists (status : Status α) (slot : Slot) : Bool :=
  status.homedAxes.toList.contains slot.letter

/-- Whether a position lies within the published range of a slot. -/
def spans (status : Status α) (slot : Slot) (position : α) : Bool :=
  status.axisMinimum.get slot ≤ position && position ≤ status.axisMaximum.get slot

/-- Whether a slot moves although it is not listed, or ends outside its range. -/
def offends (status : Status α) (move : Move α) (slot : Slot) : Bool :=
  !(move.travel.get slot == (0.0 : α)) &&
    !(status.lists slot && status.spans slot (move.endPos.get slot))

def firstOffender (status : Status α) (move : Move α) : Option Slot :=
  Slot.all.find? (status.offends move)

/-- The answer to a move that a reader of the status expects. -/
def verdict (status : Status α) (move : Move α) : Except (Fault α) Unit :=
  match status.firstOffender move with
  | none => .ok ()
  | some slot =>
    .error (.moveRejected ⟨if status.lists slot then .outOfRange else .notHomed, move.endPos⟩)

theorem verdict_eq_ok_iff {status : Status α} {move : Move α} :
    status.verdict move = .ok () ↔ ∀ slot, status.offends move slot = false := by
  unfold verdict firstOffender
  constructor
  · intro accepted slot
    cases found : Slot.all.find? (status.offends move) with
    | none =>
      have still := List.find?_eq_none.mp found slot slot.mem_all
      rwa [Bool.not_eq_true] at still
    | some offender => simp [found] at accepted
  · intro still
    have found : Slot.all.find? (status.offends move) = none := by
      refine List.find?_eq_none.mpr fun slot _ => ?_
      rw [still slot]
      decide
    rw [found]

end Status

namespace Gantry

/-- A status lists the slots that are homed and have an axis. -/
theorem lists_status {α : Type} [Scalar α] (gantry : Gantry α) (time : α) (slot : Slot) :
    (gantry.status time).value.lists slot =
      ((gantry.limits.get slot).isHomed && !gantry.axisSet.isDummy slot) := by
  rw [Bool.eq_iff_iff]
  simp only [Status.lists, status, homedAxes, String.toList_ofList, List.contains_iff_mem,
    List.mem_map_of_injective Slot.letter_injective, List.mem_filter, Limits.homedSlots,
    Slot.mem_all, true_and, Bool.and_eq_true]

variable {gantry : Gantry Float}

/-- In a sound gantry a status lists exactly the homed slots, dummies or not. -/
theorem Sound.lists_status (sound : gantry.Sound) (time : Float) (slot : Slot) :
    (gantry.status time).value.lists slot = (gantry.limits.get slot).isHomed := by
  rw [Gantry.lists_status]
  rcases sound.bounded slot with unhomed | ranged
  · rw [unhomed, Limit.isHomed_unhomed, Bool.false_and]
  · have fitted := sound.fitted slot
    rw [ranged] at fitted
    rw [← fitted, Option.isSome_some, Bool.and_true]

theorem Sound.spans_status (sound : gantry.Sound) (time : Float) {slot : Slot}
    (homed : (gantry.limits.get slot).isHomed = true) (position : Float) :
    (gantry.status time).value.spans slot position =
      (gantry.limits.get slot).contains position := by
  have notUnhomed : gantry.limits.get slot ≠ Limit.unhomed := by
    intro unhomed
    rw [unhomed, Limit.isHomed_unhomed] at homed
    cases homed
  rcases Option.map_eq_some_iff.mp (sound.railRange?_of_ne notUnhomed) with ⟨rail, held, ranged⟩
  have published : gantry.range slot = gantry.limits.get slot := by
    unfold range
    rw [held]
    exact ranged
  simp only [Status.spans, status, Triplet.get_ofSlots, published]
  rfl

/-- A slot offends the status exactly if it offends the limits. -/
theorem Sound.offends_status (sound : gantry.Sound) (time : Float) (move : Move Float)
    (slot : Slot) :
    (gantry.status time).value.offends move slot = gantry.limits.offends move slot := by
  unfold Status.offends Limits.offends
  rw [sound.lists_status]
  by_cases homed : (gantry.limits.get slot).isHomed = true
  · rw [homed, sound.spans_status time homed, Bool.true_and]
  · have outside : (gantry.limits.get slot).contains (move.endPos.get slot) = false := by
      rw [← Bool.not_eq_true]
      exact fun inside => homed (Limit.isHomed_of_contains inside)
    rw [Bool.not_eq_true] at homed
    rw [outside, homed, Bool.false_and]

/-- In a sound gantry the answer to a move is the verdict of the status. -/
theorem Sound.checkMove_eq_verdict (sound : gantry.Sound) (time : Float) (move : Move Float) :
    (gantry.checkMove move).value.1 = (gantry.status time).value.verdict move := by
  have sameOffender :
      (gantry.status time).value.firstOffender move = gantry.limits.firstOffender move := by
    unfold Status.firstOffender Limits.firstOffender
    rw [funext (sound.offends_status time move)]
  unfold checkMove Status.verdict
  rw [Noted.value_map, sameOffender]
  change (gantry.limits.judge gantry.caps move).value.1.mapError Fault.moveRejected = _
  rw [Limits.value_judge]
  cases gantry.limits.firstOffender move with
  | none => rfl
  | some slot =>
    simp only [sound.lists_status]
    rfl

end Gantry

namespace Session

/-- In every session without direct writes, the published status decides each
move.  It is admitted exactly if every slot that moves is listed as homed and
ends within the published range; otherwise the first slot for which this fails
gives the reason, by being listed or not.  A dummy is never moved. -/
theorem checkMove_of_status (toolhead : Toolhead Float) (requests : List (Request Float))
    (indirect : ∀ request ∈ requests, request.isDirectWrite = false) (number : Nat)
    (gantry : Gantry Float) (held : gantry? ((start toolhead).run requests) number = some gantry)
    (time : Float) (move : Move Float) :
    let status := (gantry.status time).value
    let answer := (gantry.checkMove move).value.1
    answer = status.verdict move ∧
    (answer = .ok () ↔ ∀ slot, (move.travel.get slot == 0.0) = false →
      slot.letter ∈ status.homedAxes.toList ∧
        status.axisMinimum.get slot ≤ move.endPos.get slot ∧
        move.endPos.get slot ≤ status.axisMaximum.get slot) ∧
    ∀ slot, gantry.axisSet.isDummy slot = true → (move.travel.get slot == 0.0) = false →
      answer ≠ .ok () := by
  intro status answer
  have sound := ((sound_start toolhead).run requests indirect).gantries number gantry held
  have decided : answer = status.verdict move := sound.checkMove_eq_verdict time move
  have accepted : answer = .ok () ↔ ∀ slot, (move.travel.get slot == 0.0) = false →
      slot.letter ∈ status.homedAxes.toList ∧
        status.axisMinimum.get slot ≤ move.endPos.get slot ∧
        move.endPos.get slot ≤ status.axisMaximum.get slot := by
    rw [decided, Status.verdict_eq_ok_iff]
    refine forall_congr' fun slot => ?_
    unfold Status.offends Status.lists Status.spans
    cases move.travel.get slot == 0.0 <;> simp
  refine ⟨decided, accepted, fun slot dummy moves admitted => ?_⟩
  -- A dummy is in no status, since a status lists configured slots only.
  have listed := (accepted.mp admitted slot moves).1
  have unlisted := gantry.lists_status time slot
  rw [dummy, Bool.not_true, Bool.and_false] at unlisted
  exact absurd (List.contains_iff_mem.mpr listed) (by simpa [Status.lists] using unlisted)

/-- A session with a gantry whose third slot is a dummy, and the other two homed. -/
def homingPair : List (Request Float) :=
  [.build .benchtop "XY" [0, 1] none, .operate 0 (.setPosition ⟨10.0, 20.0, 0.0⟩ [0, 1])]

theorem isSome_homingPair :
    (Session.gantry? ((start .benchtop).run homingPair) 0).isSome = true := by
  decide

theorem checkMove_of_status_homingPair :
    (∀ request ∈ homingPair, request.isDirectWrite = false) ∧
    ∃ gantry, gantry? ((start .benchtop).run homingPair) 0 = some gantry ∧
      (gantry.checkMove (.between ⟨10.0, 20.0, 0.0⟩ ⟨30.0, 40.0, 0.0⟩ 100.0 1000.0)).value.1 =
        .ok () ∧
      (gantry.checkMove (.between ⟨10.0, 20.0, 0.0⟩ ⟨10.0, 20.0, 5.0⟩ 100.0 1000.0)).value.1 ≠
        .ok () := by
  have indirect : ∀ request ∈ homingPair, request.isDirectWrite = false := by
    simp [homingPair, Request.isDirectWrite, Operation.isDirectWrite]
  have held := (Option.some_get isSome_homingPair).symm
  have decides := checkMove_of_status .benchtop homingPair indirect 0 _ held 1.0
  refine ⟨indirect, _, held, (decides _).2.1.mpr fun slot => ?_, (decides _).2.2 .z ?_ ?_⟩
  · cases slot <;> decide +kernel
  · decide +kernel
  · decide +kernel

end Session

end BeltGantry

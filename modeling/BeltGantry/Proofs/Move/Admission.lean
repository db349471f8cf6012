import BeltGantry.Move.Admission
namespace BeltGantry.Limits

/-!
# The check of a move as one scan

`Limits.judge` scans the slots at most twice and sometimes not at all.  Its
answer is nevertheless that of a single scan: where the scan is left out, the
first two slots end inside their limits and the third does not move, so there is
no offender to be found.  No law of comparison is used, so this holds of values
that compare with nothing as well.

`judge_eq` says all that the check does, notices included.  `scan` is the plain
check, said of positions and limits alone; `judge_eq_scan` compares the two.
-/

variable {α : Type} [Scalar α]

/-- The answer of a scan that ended at a slot, or at none. -/
def answerAt (limits : Limits α) (move : Move α) : Option Slot → Except (MoveFault α) Unit
  | none => .ok ()
  | some slot => .error ⟨limits.reason slot, move.endPos⟩

theorem offends_eq_false_of_contains {limits : Limits α} {move : Move α} {slot : Slot}
    (inside : (limits.get slot).contains (move.endPos.get slot) = true) :
    limits.offends move slot = false := by
  simp [offends, inside]

theorem offends_eq_false_of_still {limits : Limits α} {move : Move α} {slot : Slot}
    (still : (move.travel.get slot == (0.0 : α)) = true) : limits.offends move slot = false := by
  simp [offends, still]

/-- A move that the check does not scan for has no offender. -/
theorem firstOffender_eq_none_of_still {limits : Limits α} {move : Move α}
    (insidePlane : (limits.x.contains move.endPos.x && limits.y.contains move.endPos.y) = true)
    (still : (move.travel.z == (0.0 : α)) = true) : limits.firstOffender move = none := by
  rcases Bool.and_eq_true_iff.mp insidePlane with ⟨insideX, insideY⟩
  refine List.find?_eq_none.mpr ?_
  intro slot _
  rw [Bool.not_eq_true]
  cases slot with
  | x => exact offends_eq_false_of_contains insideX
  | y => exact offends_eq_false_of_contains insideY
  | z => exact offends_eq_false_of_still still

/-- The move that an admitted one becomes. -/
def admitted (caps : ZCaps α) (move : Move α) : Move α :=
  if move.travel.z == (0.0 : α) then move else slowedForZ caps move

/-- The check of a move follows from its first offender: without one the move is
admitted in silence, otherwise the offender is reported and the move is kept. -/
theorem judge_eq (limits : Limits α) (caps : ZCaps α) (move : Move α) :
    limits.judge caps move =
      match limits.firstOffender move with
      | none => ⟨(.ok (), admitted caps move), []⟩
      | some slot => ⟨(.error ⟨limits.reason slot, move.endPos⟩, move),
          [.slotRejected slot (limits.reason slot)]⟩ := by
  unfold judge diagnose admitted
  by_cases insidePlane :
      (limits.x.contains move.endPos.x && limits.y.contains move.endPos.y) = true
  · simp only [insidePlane, if_true, pure_bind]
    by_cases still : (move.travel.z == (0.0 : α)) = true
    · rw [if_pos still, if_pos still, firstOffender_eq_none_of_still insidePlane still]
      rfl
    · rw [if_neg still, if_neg still]
      cases limits.firstOffender move <;> rfl
  · rw [if_neg insidePlane]
    cases limits.firstOffender move with
    | some slot => rfl
    | none =>
      -- The first scan found nothing, so the second one, if it comes, finds nothing either.
      by_cases still : (move.travel.z == (0.0 : α)) = true
      · simp only [pure_bind, still, if_true]
        rfl
      · simp only [pure_bind, still]
        rfl

/-- The answer to a move is that of one scan over its slots. -/
theorem value_judge (limits : Limits α) (caps : ZCaps α) (move : Move α) :
    (limits.judge caps move).value.1 = limits.answerAt move (limits.firstOffender move) := by
  rw [judge_eq]
  cases limits.firstOffender move <;> rfl

/-! ## The plain check -/

/-- The first slot of a list that moves and does not end between the two ends of its
limit, with the reason to refuse it: it is out of range if the ends are the right way
round, and not homed otherwise. -/
def scan (limits : Limits α) (move : Move α) : List Slot → Option (Slot × Rejection)
  | [] => none
  | slot :: rest =>
    let limit := limits.get slot
    let place := move.endPos.get slot
    if (move.travel.get slot == (0.0 : α)) = false ∧ ¬ (limit.low ≤ place ∧ place ≤ limit.high) then
      some (slot, if limit.low ≤ limit.high then .outOfRange else .notHomed)
    else scan limits move rest

theorem offends_iff (limits : Limits α) (move : Move α) (slot : Slot) :
    limits.offends move slot = true ↔
      (move.travel.get slot == (0.0 : α)) = false ∧
        ¬ ((limits.get slot).low ≤ move.endPos.get slot ∧
          move.endPos.get slot ≤ (limits.get slot).high) := by
  have inside : (limits.get slot).contains (move.endPos.get slot) = true ↔
      (limits.get slot).low ≤ move.endPos.get slot ∧
        move.endPos.get slot ≤ (limits.get slot).high := by
    rw [Limit.contains, Bool.and_eq_true, decide_eq_true_iff, decide_eq_true_iff]
  rw [offends, Bool.and_eq_true, Bool.not_eq_true', Bool.not_eq_true', ← inside,
    Bool.not_eq_true]

/-- The plain check stops at the first offender. -/
theorem scan_eq_find? (limits : Limits α) (move : Move α) (slots : List Slot) :
    limits.scan move slots =
      (slots.find? (limits.offends move)).map fun slot => (slot, limits.reason slot) := by
  induction slots with
  | nil => rfl
  | cons slot rest inductionHypothesis =>
    unfold scan
    rw [inductionHypothesis]
    by_cases offending : limits.offends move slot = true
    · rw [List.find?_cons_of_pos offending, if_pos ((limits.offends_iff move slot).mp offending)]
      simp [reason, Limit.isHomed]
    · rw [List.find?_cons_of_neg offending,
        if_neg fun plain => offending ((limits.offends_iff move slot).mpr plain)]

/-- The check of a move agrees with the plain check of its slots in order, whatever the
values are: it has the same verdict, with the same reason, and reports the same slot. -/
theorem judge_eq_scan (limits : Limits α) (caps : ZCaps α) (move : Move α) :
    let told := limits.judge caps move
    let found := limits.scan move [.x, .y, .z]
    told.value.1 =
      (match found with
        | none => .ok ()
        | some (_, reason) => .error ⟨reason, move.endPos⟩) ∧
    told.notices = found.toList.map fun (slot, reason) => .slotRejected slot reason := by
  have plain : limits.scan move [.x, .y, .z] =
      (limits.firstOffender move).map fun slot => (slot, limits.reason slot) :=
    limits.scan_eq_find? move Slot.all
  intro told found
  simp only [told, found, plain, judge_eq]
  cases limits.firstOffender move <;> exact ⟨rfl, rfl⟩

end BeltGantry.Limits

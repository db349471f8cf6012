import Mathlib.Data.List.Induction
import BeltGantry.Proofs.Homing.Protocol
namespace BeltGantry

/-!
# What simulated homing records

The simulated host grants every call but those for its silent axis, so a request
of axes that have targets is recorded up to the first silent one and no further.
`recording` is the host with granted calls behind what it recorded before, their moves
in one list and the names of their rails in the other.

The final position is a fold over the recorded moves in which a later move
overrides an earlier one of the same axis.  `get_finalPosition` says what is left
of it in each slot: the target of the last move of the slot's axis.
-/

variable {α : Type}

namespace HomingMove

/-- The place where a move ends its axis, if it has one. -/
def target (move : HomingMove α) : Option α := move.homePos[move.axis]?.join

/-- Both vectors of targets reach to the axis of the move. -/
structure InBounds (move : HomingMove α) : Prop where
  force : move.axis < move.forcePos.length
  home : move.axis < move.homePos.length

theorem length_onlyAt (length place : Nat) (value : α) :
    (onlyAt length place value).length = length := by
  simp [onlyAt]

theorem getElem?_onlyAt {length place : Nat} (inside : place < length) (value : α) :
    (onlyAt length place value)[place]? = some (some value) := by
  simp [onlyAt, inside]

variable [Scalar α] {axis axisCount : Nat}

theorem inBounds_ofRail (inside : axis < axisCount) (rail : Rail α) :
    (ofRail axis rail axisCount).InBounds where
  force := lt_of_lt_of_eq inside (length_onlyAt axisCount axis _).symm
  home := lt_of_lt_of_eq inside (length_onlyAt axisCount axis _).symm

theorem target_ofRail (inside : axis < axisCount) (rail : Rail α) :
    (ofRail axis rail axisCount).target = some rail.positionEndstop :=
  congrArg Option.join (getElem?_onlyAt inside rail.positionEndstop)

end HomingMove

namespace SimulatedHoming

/-! ## Final positions -/

section

variable {triplet : Triplet Nat}

theorem slotWithin_eq_some_iff
    (distinct : ∀ first second, triplet.get first = triplet.get second → first = second)
    {axis : Nat} {slot : Slot} : slotWithin triplet axis = some slot ↔ triplet.get slot = axis := by
  constructor
  · intro found
    have answered := List.find?_some found
    exact beq_iff_eq.mp answered
  · intro same
    cases found : slotWithin triplet axis with
    | none =>
      have unanswered := List.find?_eq_none.mp found slot slot.mem_all
      exact absurd (beq_iff_eq.mpr same) unanswered
    | some other =>
      have answered := List.find?_some found
      rw [distinct other slot ((beq_iff_eq.mp answered).trans same.symm)]

variable [Scalar α]

theorem get_afterMove
    (distinct : ∀ first second, triplet.get first = triplet.get second → first = second)
    (position : Point α) (move : HomingMove α) (slot : Slot) :
    (afterMove triplet position move).get slot =
      if move.axis = triplet.get slot then move.target.getD 0.0 else position.get slot := by
  unfold afterMove
  cases found : slotWithin triplet move.axis with
  | none =>
    have foreign : move.axis ≠ triplet.get slot := by
      intro same
      rw [(slotWithin_eq_some_iff distinct).mpr same.symm] at found
      cases found
    rw [if_neg foreign]
  | some other =>
    have atOther := (slotWithin_eq_some_iff distinct).mp found
    by_cases same : slot = other
    · subst same
      rw [if_pos atOther.symm, Triplet.get_set_self]
      rfl
    · have apart : move.axis ≠ triplet.get slot := by
        intro atSlot
        exact same (distinct slot other (atSlot.symm.trans atOther.symm))
      rw [if_neg apart, Triplet.get_set_of_ne _ _ same]

/-- The last move of the axis of a slot decides the slot; without one the slot
stays as it was. -/
theorem get_foldl_afterMove
    (distinct : ∀ first second, triplet.get first = triplet.get second → first = second)
    (moves : List (HomingMove α)) (position : Point α) (slot : Slot) :
    (moves.foldl (afterMove triplet) position).get slot =
      (((moves.filter fun move => move.axis = triplet.get slot).getLast?).map fun last =>
        last.target.getD 0.0).getD (position.get slot) := by
  -- From the end of the list, where the move stands that decides.
  induction moves using List.reverseRecOn with
  | nil => rfl
  | append_singleton earlier move inductionHypothesis =>
    rw [List.foldl_append, List.foldl_cons, List.foldl_nil, get_afterMove distinct,
      List.filter_append]
    by_cases same : move.axis = triplet.get slot
    · simp [same]
    · simp [same, inductionHypothesis]

variable {homing : SimulatedHoming α}

theorem get_finalPosition
    (distinct : ∀ first second, triplet.get first = triplet.get second → first = second)
    (slot : Slot) :
    (homing.finalPosition triplet).get slot =
      (((homing.moves.filter fun move => move.axis = triplet.get slot).getLast?).map fun last =>
        last.target.getD 0.0).getD 0.0 := by
  unfold finalPosition
  rw [get_foldl_afterMove distinct, Triplet.get_const]

/-- A slot whose axis was homed ends where all moves of the axis lead. -/
theorem get_finalPosition_of_mem
    (distinct : ∀ first second, triplet.get first = triplet.get second → first = second)
    {slot : Slot} {place : α} (homed : triplet.get slot ∈ homing.homedAxes)
    (leads : ∀ move ∈ homing.moves, move.axis = triplet.get slot → move.target = some place) :
    (homing.finalPosition triplet).get slot = place := by
  rw [get_finalPosition distinct]
  rcases List.mem_map.mp homed with ⟨move, listed, same⟩
  have kept : move ∈ homing.moves.filter fun move => move.axis = triplet.get slot :=
    List.mem_filter.mpr ⟨listed, decide_eq_true same⟩
  rcases Option.ne_none_iff_exists'.mp (mt List.getLast?_eq_none_iff.mp
    (List.ne_nil_of_mem kept)) with ⟨last, found⟩
  rcases List.mem_filter.mp (List.mem_of_getLast? found) with ⟨lastListed, lastSame⟩
  rw [found, Option.map_some, leads last lastListed (of_decide_eq_true lastSame)]
  rfl

theorem get_finalPosition_of_not_mem
    (distinct : ∀ first second, triplet.get first = triplet.get second → first = second)
    {slot : Slot} (unhomed : triplet.get slot ∉ homing.homedAxes) :
    (homing.finalPosition triplet).get slot = 0.0 := by
  have unmoved : (homing.moves.filter fun move => move.axis = triplet.get slot) = [] := by
    refine List.filter_eq_nil_iff.mpr fun move listed same => unhomed ?_
    exact List.mem_map.mpr ⟨move, listed, of_decide_eq_true same⟩
  rw [get_finalPosition distinct, unmoved]
  rfl

end

/-! ## Reading in bounds -/

section

variable [Scalar α]

/-- The position after a homing move, if the place where its target is read exists. -/
def afterMove? (triplet : Triplet Nat) (position : Point α) (move : HomingMove α) :
    Option (Point α) :=
  match slotWithin triplet move.axis with
  | none => some position
  | some slot => move.homePos[move.axis]?.map fun target => position.set slot (target.getD 0.0)

/-- The final position, if every place that is read for it exists. -/
def finalPosition? (homing : SimulatedHoming α) (triplet : Triplet Nat) : Option (Point α) :=
  homing.moves.foldlM (afterMove? triplet) (Triplet.const 0.0)

theorem afterMove?_eq_some {move : HomingMove α} (inBounds : move.InBounds)
    (triplet : Triplet Nat) (position : Point α) :
    afterMove? triplet position move = some (afterMove triplet position move) := by
  unfold afterMove? afterMove
  cases slotWithin triplet move.axis with
  | none => rfl
  | some slot => simp [List.getElem?_eq_getElem inBounds.home]

theorem finalPosition?_eq_some {homing : SimulatedHoming α}
    (inBounds : ∀ move ∈ homing.moves, move.InBounds) (triplet : Triplet Nat) :
    homing.finalPosition? triplet = some (homing.finalPosition triplet) := by
  unfold finalPosition? finalPosition
  generalize homing.moves = moves at inBounds
  generalize (Triplet.const 0.0 : Point α) = position
  induction moves generalizing position with
  | nil => rfl
  | cons move rest inductionHypothesis =>
    rcases List.forall_mem_cons.mp inBounds with ⟨inBoundsMove, inBoundsRest⟩
    rw [List.foldlM_cons, afterMove?_eq_some inBoundsMove]
    exact inductionHypothesis inBoundsRest _

end

/-! ## Records -/

end SimulatedHoming

/-- The name under which a call is recorded: that of its first rail, and empty without rails. -/
def HomingCall.railName (call : HomingCall α) : String := (call.rails.head?.map Rail.name).getD ""

namespace SimulatedHoming

/-- The host after it granted calls. -/
def recording (homing : SimulatedHoming α) (granted : List (HomingCall α)) : SimulatedHoming α :=
  { homing with
    moves := homing.moves ++ granted.map HomingCall.move
    homedRails := homing.homedRails ++ granted.map HomingCall.railName }

@[simp]
theorem recording_nil (homing : SimulatedHoming α) : homing.recording [] = homing := by
  simp [recording]

theorem recording_cons (homing : SimulatedHoming α) (call : HomingCall α)
    (rest : List (HomingCall α)) :
    homing.recording (call :: rest) = (homing.recording [call]).recording rest := by
  simp [recording]

@[simp]
theorem silent_recording (homing : SimulatedHoming α) (granted : List (HomingCall α)) :
    (homing.recording granted).silent = homing.silent := rfl

theorem moves_recording (homing : SimulatedHoming α) (granted : List (HomingCall α)) :
    (homing.recording granted).moves = homing.moves ++ granted.map HomingCall.move := rfl

theorem homedAxes_recording (homing : SimulatedHoming α) (granted : List (HomingCall α)) :
    (homing.recording granted).homedAxes = homing.homedAxes ++ granted.map (·.move.axis) := by
  simp [homedAxes, moves_recording, Function.comp_def]

/-- What a host without hardware answers to a single call. -/
theorem value_homeRails (homing : SimulatedHoming α) (call : HomingCall α) :
    (host.homeRails homing call.rails call.move).value =
      if homing.silent = some call.move.axis then (.error (.noTrigger call.railName), homing)
      else (.ok (), homing.recording [call]) := by
  change (homing.homeRails call.rails call.move).value = _
  unfold homeRails
  dsimp only
  split <;> rfl

variable [Scalar α]

/-- Where targets fit into memory, the steps before the silent axis are recorded,
and a step of the silent axis ends the run. -/
theorem value_perform {axisCount : Nat} (fits : axisCount < targetLimit)
    {steps : List (Nat × Rail α)} (inside : ∀ step ∈ steps, step.1 < axisCount)
    (homing : SimulatedHoming α) :
    (Homing.perform host axisCount steps homing).value =
      ((match steps.find? fun step => homing.silent = some step.1 with
        | none => .ok ()
        | some step => .error (.noTrigger step.2.name)),
        homing.recording ((steps.takeWhile fun step => homing.silent ≠ some step.1).map
          (Homing.order axisCount))) := by
  induction steps generalizing homing with
  | nil => simp [Homing.perform]
  | cons step rest inductionHypothesis =>
    obtain ⟨axis, rail⟩ := step
    rcases List.forall_mem_cons.mp inside with ⟨insideStep, insideRest⟩
    have answered : (host.homeRails homing [rail] (.ofRail axis rail axisCount)).value =
        if homing.silent = some axis then (.error (.noTrigger rail.name), homing)
        else (.ok (), homing.recording [Homing.order axisCount (axis, rail)]) :=
      homing.value_homeRails (Homing.order axisCount (axis, rail))
    rw [Homing.value_perform_cons, if_pos ⟨insideStep, fits⟩, answered]
    by_cases silent : homing.silent = some axis
    · rw [if_pos silent]
      simp [silent]
    · rw [if_neg silent]
      dsimp only
      rw [inductionHypothesis insideRest, silent_recording]
      simp [silent, ← recording_cons]

end SimulatedHoming

end BeltGantry

import BeltGantry.Proofs.Move.Admission
import BeltGantry.Proofs.Scalar.Binary64
namespace BeltGantry

/-!
# What a check leaves of a move

Lowering the caps of a move touches the caps and the two values that follow from
them.  The points, the displacement and the distance stay, and these are all that the
check of a move and the caps of the third slot are worked out from.  So a second check
comes to the same verdict and asks for the same caps.  Asking for the same caps twice
is asking for them once, whatever the values are: no law of comparison is needed, as
each of the two caps is afterwards either the old value or the one that was asked for.

That caps are never raised does need the order of binary64.  Said with `<` it holds of
all values: a cap that is NaN gives way to the one that was asked for.
-/

section

variable {α : Type} [Scalar α]

theorem Scalar.lesser_self (value : α) : lesser value value = value := by
  unfold lesser
  split
  · rfl
  · split <;> rfl

/-- The smaller of two values is one of them, and stays with the second one. -/
theorem Scalar.lesser_lesser (first second : α) :
    lesser (lesser first second) second = lesser first second := by
  by_cases below : second < first
  · have taken : lesser first second = second := if_pos below
    rw [taken, lesser_self]
  · by_cases comparable : (first == first) = true
    · have kept : lesser first second = first := by
        rw [lesser, if_neg below, if_pos comparable]
      rw [kept, kept]
    · have taken : lesser first second = second := by
        rw [lesser, if_neg below, if_neg comparable]
      rw [taken, lesser_self]

namespace Move

/-- A speed cap that is lowered. -/
theorem cap_of_lt {move : Move α} {speed : α} (lower : speed * speed < move.maxCruiseSquared)
    (accel : α) : move.cap speed accel =
      { move with
        maxCruiseSquared := speed * speed
        leastDuration := Duration.ofSpeed move.distance speed
        accel := Scalar.lesser move.accel accel
        squaredGain := 2.0 * move.distance * Scalar.lesser move.accel accel } := by
  rw [cap, if_pos lower]

/-- A speed cap that is low enough. -/
theorem cap_of_not_lt {move : Move α} {speed : α}
    (enough : ¬ speed * speed < move.maxCruiseSquared) (accel : α) : move.cap speed accel =
      { move with
        accel := Scalar.lesser move.accel accel
        squaredGain := 2.0 * move.distance * Scalar.lesser move.accel accel } := by
  rw [cap, if_neg enough]

/-- Two moves between the same points, with the same displacement and distance. -/
structure SamePath (first second : Move α) : Prop where
  startPos : second.startPos = first.startPos
  endPos : second.endPos = first.endPos
  travel : second.travel = first.travel
  distance : second.distance = first.distance

theorem samePath_cap (move : Move α) (speed accel : α) :
    move.SamePath (move.cap speed accel) := by
  by_cases lower : speed * speed < move.maxCruiseSquared
  · rw [cap_of_lt lower]
    exact ⟨rfl, rfl, rfl, rfl⟩
  · rw [cap_of_not_lt lower]
    exact ⟨rfl, rfl, rfl, rfl⟩

theorem maxCruiseSquared_cap (move : Move α) (speed accel : α) :
    (move.cap speed accel).maxCruiseSquared =
      if speed * speed < move.maxCruiseSquared then speed * speed
      else move.maxCruiseSquared := by
  by_cases lower : speed * speed < move.maxCruiseSquared
  · rw [cap_of_lt lower, if_pos lower]
  · rw [cap_of_not_lt lower, if_neg lower]

theorem accel_cap (move : Move α) (speed accel : α) :
    (move.cap speed accel).accel = Scalar.lesser move.accel accel := rfl

theorem squaredGain_cap (move : Move α) (speed accel : α) :
    (move.cap speed accel).squaredGain =
      2.0 * move.distance * (move.cap speed accel).accel := rfl

/-- Lowering caps to the same values again changes nothing. -/
theorem cap_cap (move : Move α) (speed accel : α) :
    (move.cap speed accel).cap speed accel = move.cap speed accel := by
  by_cases lower : speed * speed < move.maxCruiseSquared
  · rw [cap_of_lt lower]
    -- The cap is now the very square that is asked for, so either branch gives the same.
    unfold cap
    dsimp only
    rw [Scalar.lesser_lesser]
    split <;> rfl
  · rw [cap_of_not_lt lower]
    unfold cap
    dsimp only
    rw [if_neg lower, Scalar.lesser_lesser]

end Move

namespace Limits

variable {limits : Limits α} {caps : ZCaps α} {move : Move α}

theorem samePath_slowedForZ (caps : ZCaps α) (move : Move α) :
    move.SamePath (slowedForZ caps move) :=
  move.samePath_cap _ _

/-- The caps of the third slot are worked out from what capping leaves alone. -/
theorem slowedForZ_slowedForZ (caps : ZCaps α) (move : Move α) :
    slowedForZ caps (slowedForZ caps move) = slowedForZ caps move := by
  have same := samePath_slowedForZ caps move
  rw [slowedForZ, same.distance, same.travel, slowedForZ]
  exact move.cap_cap _ _

theorem samePath_admitted (caps : ZCaps α) (move : Move α) :
    move.SamePath (admitted caps move) := by
  unfold admitted
  split
  · exact ⟨rfl, rfl, rfl, rfl⟩
  · exact samePath_slowedForZ caps move

theorem admitted_admitted (caps : ZCaps α) (move : Move α) :
    admitted caps (admitted caps move) = admitted caps move := by
  by_cases still : (move.travel.z == (0.0 : α)) = true
  · have kept : admitted caps move = move := if_pos still
    rw [kept, kept]
  · have slowed : admitted caps move = slowedForZ caps move := if_neg still
    rw [slowed, admitted, (samePath_slowedForZ caps move).travel, if_neg still,
      slowedForZ_slowedForZ]

/-- The first offender is a matter of the path. -/
theorem firstOffender_of_samePath {other : Move α} (same : move.SamePath other) :
    limits.firstOffender other = limits.firstOffender move := by
  have offenders : limits.offends other = limits.offends move := by
    funext slot
    unfold offends
    rw [same.travel, same.endPos]
  unfold firstOffender
  rw [offenders]

theorem firstOffender_eq_none_of_judge (accepted : (limits.judge caps move).value.1 = .ok ()) :
    limits.firstOffender move = none := by
  rw [value_judge] at accepted
  cases found : limits.firstOffender move with
  | none => rfl
  | some slot =>
    rw [found] at accepted
    cases accepted

theorem judge_of_firstOffender_eq_none (clear : limits.firstOffender move = none) :
    limits.judge caps move = ⟨(.ok (), admitted caps move), []⟩ := by
  rw [judge_eq, clear]

/-- A refused move is kept. -/
theorem judge_of_refused {fault : MoveFault α}
    (refused : (limits.judge caps move).value.1 = .error fault) :
    (limits.judge caps move).value.2 = move := by
  rw [judge_eq] at refused ⊢
  cases found : limits.firstOffender move with
  | none =>
    rw [found] at refused
    cases refused
  | some slot => rfl

/-- So is a move that the third slot has no part in. -/
theorem judge_of_still (still : (move.travel.z == (0.0 : α)) = true) :
    (limits.judge caps move).value.2 = move := by
  rw [judge_eq]
  cases limits.firstOffender move with
  | none => exact if_pos still
  | some slot => rfl

/-- A move that was admitted is admitted again as it is, in silence. -/
theorem judge_judge (accepted : (limits.judge caps move).value.1 = .ok ()) :
    limits.judge caps (limits.judge caps move).value.2 =
      ⟨(.ok (), (limits.judge caps move).value.2), []⟩ := by
  have clear := firstOffender_eq_none_of_judge accepted
  rw [judge_of_firstOffender_eq_none clear]
  have clearAfter := (firstOffender_of_samePath (samePath_admitted caps move)).trans clear
  rw [judge_of_firstOffender_eq_none clearAfter, admitted_admitted]

end Limits

end

/-! ## Caps of binary64 -/

namespace Binary64

theorem lt_irrefl (value : Float) : ¬ value < value := by
  intro below
  rcases lt_iff_ranks.mp below with ⟨low, high, atLow, atHigh, lowHigh⟩
  exact lowHigh.ne (Option.some.inj (atLow.symm.trans atHigh))

theorem lt_asymm {first second : Float} (below : first < second) : ¬ second < first := by
  intro above
  rcases lt_iff_ranks.mp below with ⟨low, high, atLow, atHigh, lowHigh⟩
  rcases lt_iff_ranks.mp above with ⟨high', low', atHigh', atLow', highLow⟩
  rw [Option.some.inj (atLow'.symm.trans atLow), Option.some.inj (atHigh'.symm.trans atHigh)]
    at highLow
  exact lowHigh.asymm highLow

/-- A value that does not equal itself is below nothing. -/
theorem not_lt_of_ne_self {first : Float} (incomparable : ¬ (first == first) = true)
    (second : Float) : ¬ first < second := by
  intro below
  rcases lt_iff_ranks.mp below with ⟨low, high, atLow, -, -⟩
  apply incomparable
  change (first.toModel.unpack.compare first.toModel.unpack == some .eq) = true
  rw [compare_eq_places, show place first.toModel.unpack = some low from atLow]
  simp

theorem not_lt_lesser (first second : Float) : ¬ first < Scalar.lesser first second := by
  unfold Scalar.lesser
  split
  · rename_i below
    exact lt_asymm below
  · split
    · exact lt_irrefl first
    · rename_i incomparable
      exact not_lt_of_ne_self incomparable second

end Binary64

theorem Move.not_lt_maxCruiseSquared_cap (move : Move Float) (speed accel : Float) :
    ¬ move.maxCruiseSquared < (move.cap speed accel).maxCruiseSquared := by
  rw [maxCruiseSquared_cap]
  split
  · rename_i lower
    exact Binary64.lt_asymm lower
  · exact Binary64.lt_irrefl _

namespace Limits

/-- The check of a move, whatever the values in it are, leaves a move as it was if it
refuses it or the third slot stays where it is.  Otherwise it keeps the path, raises
neither cap, and works out the gain anew from the cap on the acceleration.  A move that
came out of the check passes it again unchanged. -/
theorem judge_settles (limits : Limits Float) (caps : ZCaps Float) (move : Move Float) :
    let told := limits.judge caps move
    let after := told.value.2
    (∀ fault, told.value.1 = .error fault → after = move) ∧
    ((move.travel.z == 0.0) = true → after = move) ∧
    (told.value.1 = .ok () → (move.travel.z == 0.0) = false →
      after.startPos = move.startPos ∧ after.endPos = move.endPos ∧
      after.travel = move.travel ∧ after.distance = move.distance ∧
      ¬ move.maxCruiseSquared < after.maxCruiseSquared ∧ ¬ move.accel < after.accel ∧
      after.squaredGain = 2.0 * move.distance * after.accel) ∧
    (told.value.1 = .ok () → limits.judge caps after = ⟨(.ok (), after), []⟩) := by
  intro told after
  refine ⟨fun fault => judge_of_refused, judge_of_still, fun accepted moving => ?_, judge_judge⟩
  have slowed : after = slowedForZ caps move := by
    have clear := firstOffender_eq_none_of_judge accepted
    have admission : after = admitted caps move :=
      congrArg (fun told => told.value.2) (judge_of_firstOffender_eq_none clear)
    rw [admission, admitted, if_neg (Bool.eq_false_iff.mp moving)]
  have same := samePath_slowedForZ caps move
  rw [slowed]
  refine ⟨same.startPos, same.endPos, same.travel, same.distance, ?_, ?_, ?_⟩
  · exact move.not_lt_maxCruiseSquared_cap _ _
  · exact Binary64.not_lt_lesser _ _
  · exact move.squaredGain_cap _ _

end Limits

/-- A move of all three slots, with caps above those of a slow third slot. -/
def Move.diagonal : Move Float := .between ⟨0.0, 0.0, 0.0⟩ ⟨2.0, 3.0, 6.0⟩ 300.0 3000.0

/-- Caps of which the third slot knows only one. -/
def ZCaps.unknownSpeed : ZCaps Float := ⟨0.0 / 0.0, 100.0⟩

namespace Limits

/-- Every slot homed over the same range. -/
def roomy {α : Type} [Scalar α] : Limits α := Triplet.const ⟨0.0, 200.0⟩

/-- A cap that is NaN lowers nothing; the other one counts. -/
theorem judge_settles_diagonal :
    let after := (roomy.judge .unknownSpeed .diagonal).value.2
    (roomy.judge .unknownSpeed .diagonal).value.1 = .ok () ∧
    after.travel = ⟨2.0, 3.0, 6.0⟩ ∧ ¬ Move.diagonal.accel < after.accel ∧
    after ≠ .diagonal ∧
    roomy.judge .unknownSpeed after = ⟨(.ok (), after), []⟩ ∧
    ((unhomed : Limits Float).judge .unknownSpeed .diagonal).value.2 = .diagonal := by
  intro after
  have clear : roomy.firstOffender .diagonal = none := by decide +kernel
  have accepted : (roomy.judge .unknownSpeed .diagonal).value.1 = .ok () := by
    rw [value_judge, clear]
    rfl
  have offending : (unhomed : Limits Float).firstOffender .diagonal = some .x := by
    decide +kernel
  rcases judge_settles roomy .unknownSpeed .diagonal with ⟨-, -, keeps, again⟩
  rcases keeps accepted (by decide +kernel) with ⟨-, -, travel, -, -, accel, -⟩
  rcases judge_settles unhomed .unknownSpeed .diagonal with ⟨refused, -⟩
  refine ⟨accepted, travel.trans (by decide +kernel), accel, by decide +kernel, again accepted,
    refused ⟨(unhomed : Limits Float).reason .x, Move.diagonal.endPos⟩ ?_⟩
  rw [value_judge, offending]
  rfl

end Limits

end BeltGantry

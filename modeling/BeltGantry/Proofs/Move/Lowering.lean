import BeltGantry.Proofs.Move.Derating
namespace BeltGantry

/-!
# Lowering caps more than once

In exact arithmetic, and for speeds that are not below zero, lowering the caps of a new
move gives the move that would have been built with the smaller speed and the smaller
acceleration.  A move whose caps were lowered many times is therefore the one built with
the least of all speeds and the least of all accelerations, which settles at once every
value that follows from the caps.

The least of several values is the same in whatever order they come and however often, so
neither matters to the move.  Signs do matter: a speed counts by its square, and the square
of a speed below zero may be above that of a cap which is larger than it.
-/

section

variable {K : Type} [LinearOrder K]

/-- What is at most the least of several values is at most each of them. -/
theorem le_foldl_min_iff {bound first : K} {values : List K} :
    bound ≤ values.foldl min first ↔ bound ≤ first ∧ ∀ value ∈ values, bound ≤ value := by
  induction values generalizing first with
  | nil => simp
  | cons value rest inductionHypothesis =>
    rw [List.foldl_cons, inductionHypothesis, le_min_iff, List.forall_mem_cons, and_assoc]

/-- Neither order nor repetition matters to the least of several values. -/
theorem foldl_min_congr (first : K) {values others : List K}
    (same : ∀ value, value ∈ others ↔ value ∈ values) :
    others.foldl min first = values.foldl min first := by
  apply eq_of_forall_le_iff
  intro bound
  rw [le_foldl_min_iff, le_foldl_min_iff]
  simp only [same]

end

variable {K : Type} [Field K] [LinearOrder K] [IsStrictOrderedRing K]

/-- At a speed that is not below zero, only a standstill takes for ever. -/
theorem Duration.ofSpeed_of_nonneg (distance : K) {speed : K} (nonneg : 0 ≤ speed) :
    ofSpeed distance speed =
      if speed = 0 then .unbounded else .seconds (distance / speed) := by
  have origin : (0.0 : K) = 0 := by norm_num
  unfold ofSpeed
  rw [origin]
  by_cases still : speed = 0
  · rw [if_pos still, if_neg (not_lt_of_ge still.le)]
  · rw [if_neg still, if_pos (lt_of_le_of_ne nonneg (Ne.symm still))]

namespace Move

/-- The move with its caps lowered to each of several speeds and accelerations. -/
def capAll {α : Type} [Scalar α] (move : Move α) (calls : List (α × α)) : Move α :=
  calls.foldl (fun move call => move.cap call.1 call.2) move

variable [SquareRoot K]

/-- Lowering the caps of a new move builds it with the smaller ones. -/
theorem cap_between (startPos endPos : Point K) {speed newSpeed : K} (accel newAccel : K)
    (nonneg : 0 ≤ speed) (newNonneg : 0 ≤ newSpeed) :
    (between startPos endPos speed accel).cap newSpeed newAccel =
      between startPos endPos (min speed newSpeed) (min accel newAccel) := by
  rcases lt_or_ge newSpeed speed with slower | faster
  · have lower : newSpeed * newSpeed < speed * speed := mul_self_lt_mul_self newNonneg slower
    rw [cap_of_lt lower, Scalar.lesser_eq_min, min_eq_right slower.le]
    rfl
  · have enough : ¬ newSpeed * newSpeed < speed * speed :=
      not_lt_of_ge (mul_self_le_mul_self nonneg faster)
    rw [cap_of_not_lt enough, Scalar.lesser_eq_min, min_eq_left faster]
    rfl

/-- Lowering them more than once builds it with the least ones. -/
theorem capAll_between (startPos endPos : Point K) {speed : K} (accel : K)
    (calls : List (K × K)) (nonneg : 0 ≤ speed) (callsNonneg : ∀ call ∈ calls, 0 ≤ call.1) :
    (between startPos endPos speed accel).capAll calls =
      between startPos endPos ((calls.map Prod.fst).foldl min speed)
        ((calls.map Prod.snd).foldl min accel) := by
  induction calls generalizing speed accel with
  | nil => rfl
  | cons call rest inductionHypothesis =>
    rcases List.forall_mem_cons.mp callsNonneg with ⟨callNonneg, restNonneg⟩
    change ((between startPos endPos speed accel).cap call.1 call.2).capAll rest = _
    rw [cap_between startPos endPos accel call.2 nonneg callNonneg,
      inductionHypothesis _ (le_min nonneg callNonneg) restNonneg]
    rfl

/-- Calls with the same members come to the same move. -/
theorem capAll_congr (startPos endPos : Point K) {speed : K} (accel : K)
    {calls others : List (K × K)} (nonneg : 0 ≤ speed) (callsNonneg : ∀ call ∈ calls, 0 ≤ call.1)
    (same : ∀ call, call ∈ others ↔ call ∈ calls) :
    (between startPos endPos speed accel).capAll others =
      (between startPos endPos speed accel).capAll calls := by
  have sameValues (part : K × K → K) (value : K) :
      value ∈ others.map part ↔ value ∈ calls.map part := by
    simp only [List.mem_map, same]
  have othersNonneg : ∀ call ∈ others, 0 ≤ call.1 := fun call listed =>
    callsNonneg call ((same call).mp listed)
  rw [capAll_between startPos endPos accel calls nonneg callsNonneg,
    capAll_between startPos endPos accel others nonneg othersNonneg,
    foldl_min_congr speed (sameValues Prod.fst), foldl_min_congr accel (sameValues Prod.snd)]

/-- The caps of a move that were lowered any number of times are the least of all that were
asked for, the first ones among them; duration and gain follow from these caps, and the
path stays.  Neither the order of the calls nor their repetition matters. -/
theorem capped_to_least (startPos endPos : Point K) (speed accel : K) (calls : List (K × K))
    (nonneg : 0 ≤ speed) (callsNonneg : ∀ call ∈ calls, 0 ≤ call.1) :
    let built := between startPos endPos speed accel
    let slowest := (calls.map Prod.fst).foldl min speed
    let lowest := (calls.map Prod.snd).foldl min accel
    let after := built.capAll calls
    after.maxCruiseSquared = slowest ^ 2 ∧ after.accel = lowest ∧
    after.squaredGain = 2 * built.distance * lowest ∧
    after.leastDuration =
      (if slowest = 0 then .unbounded else .seconds (built.distance / slowest)) ∧
    built.SamePath after ∧
    (∀ others, (∀ call, call ∈ others ↔ call ∈ calls) → built.capAll others = after) ∧
    ∀ call ∈ calls, after.cap call.1 call.2 = after := by
  intro built slowest lowest after
  have least : after = between startPos endPos slowest lowest :=
    capAll_between startPos endPos accel calls nonneg callsNonneg
  have slowestNonneg : 0 ≤ slowest :=
    le_foldl_min_iff.mpr ⟨nonneg, List.forall_mem_map.mpr callsNonneg⟩
  have double : (2.0 : K) = 2 := by norm_num
  have regardless (others : List (K × K)) (same : ∀ call, call ∈ others ↔ call ∈ calls) :
      built.capAll others = after :=
    capAll_congr startPos endPos accel nonneg callsNonneg same
  refine ⟨?_, ?_, ?_, ?_, ?_, regardless, ?_⟩
  · rw [least, sq]
    rfl
  · rw [least]
    rfl
  · rw [least, ← double]
    rfl
  · rw [least, ← Duration.ofSpeed_of_nonneg _ slowestNonneg]
    rfl
  · rw [least]
    exact ⟨rfl, rfl, rfl, rfl⟩
  · intro call listed
    -- One more call at the end is a list with the same calls.
    have again : built.capAll (calls ++ [call]) = after.cap call.1 call.2 :=
      List.foldl_append
    rw [← again]
    apply regardless
    intro other
    rw [List.mem_append, List.mem_singleton]
    exact ⟨fun either => either.elim id (· ▸ listed), .inl⟩

/-- The least speed comes first and last, the least acceleration in between. -/
theorem capped_to_least_rising :
    let after := rising.capAll [(100, 5000), (200, 1000)]
    after.maxCruiseSquared = 100 ^ 2 ∧ after.accel = 1000 ∧
      after.leastDuration = .seconds (7 / 100) ∧
      rising.capAll [(200, 1000), (100, 5000), (200, 1000)] = after ∧
      (rising.capAll [(0, 5000)]).leastDuration = .unbounded := by
  intro after
  have nonneg : (0 : ℝ) ≤ 300 := by norm_num
  have callsNonneg : ∀ call ∈ [((100 : ℝ), (5000 : ℝ)), (200, 1000)], 0 ≤ call.1 := by
    simp only [List.forall_mem_cons]
    norm_num
  rcases capped_to_least ⟨0, 0, 0⟩ ⟨2, 3, 6⟩ 300 3000 _ nonneg callsNonneg with
    ⟨squared, accel, -, duration, -, regardless, -⟩
  rcases capped_to_least ⟨0, 0, 0⟩ ⟨2, 3, 6⟩ 300 3000 [((0 : ℝ), (5000 : ℝ))] nonneg
    (by simp) with ⟨-, -, -, standstill, -⟩
  have slowest : (([((100 : ℝ), (5000 : ℝ)), (200, 1000)]).map Prod.fst).foldl min 300 = 100 := by
    norm_num
  have lowest : (([((100 : ℝ), (5000 : ℝ)), (200, 1000)]).map Prod.snd).foldl min 3000 =
      1000 := by
    norm_num
  rw [slowest] at squared duration
  refine ⟨squared, accel.trans lowest, ?_, regardless _ ?_, ?_⟩
  · rw [← distance_rising]
    exact duration.trans (if_neg (by norm_num))
  · intro call
    simp only [List.mem_cons, List.not_mem_nil, or_false]
    tauto
  · exact standstill.trans (if_pos (by norm_num))

end Move

end BeltGantry

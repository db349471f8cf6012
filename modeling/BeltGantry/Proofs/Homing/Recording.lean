import BeltGantry.Proofs.Homing.Travel
namespace BeltGantry

/-!
# Calls to simulated homing

A host without hardware may be called with any moves, several times for one axis, without a
rail, and with targets taken away.  Whether a call is granted depends on its axis alone, so
the granted calls are known before the first one is made, and everything recorded is told
through them.  The moves are one list and the names of the rails another.  Nothing ties the two
together but that a call adds to both or to neither, which keeps them `Aligned` whatever fails
in between.

Which endstop stays silent may be decided late.  So an axis may be silent and homed, but no
call makes it so.

The final position reads the moves backwards.  The last move of an axis decides its slot, also
where its target was taken away, and moves of axes outside of the triplet decide nothing.
-/

variable {α : Type}

namespace HomingMove

/-- A move without its home targets at some places. -/
def blanked (move : HomingMove α) (places : List Nat) : HomingMove α :=
  { move with
    homePos := move.homePos.mapIdx fun place target => if place ∈ places then none else target }

theorem blanked_nil (move : HomingMove α) : move.blanked [] = move := by
  have unchanged : (move.homePos.mapIdx fun _ target => target) = move.homePos :=
    List.ext_getElem? fun place => by simp
  simp [blanked, unchanged]

variable [Scalar α]

/-- A move laid out for some rail on some machine, all of whose home targets may be gone. -/
def Laid (move : HomingMove α) : Prop :=
  ∃ axis rail axisCount laid places,
    ofRail? axis rail axisCount = some laid ∧ move = laid.blanked places

theorem laid_of_ofRail? {axis axisCount : Nat} {rail : Rail α} {move : HomingMove α}
    (found : ofRail? axis rail axisCount = some move) (places : List Nat) :
    (move.blanked places).Laid :=
  ⟨axis, rail, axisCount, move, places, found, rfl⟩

theorem Laid.inBounds {move : HomingMove α} (laid : move.Laid) : move.InBounds := by
  rcases laid with ⟨axis, rail, axisCount, whole, places, found, rfl⟩
  have inside := (exists_ofRail?_iff.mp ⟨whole, found⟩).1
  rcases (ofRail?_eq_some_iff inside).mp found with ⟨-, rfl⟩
  have inBounds := inBounds_ofRail inside rail
  refine ⟨inBounds.force, lt_of_lt_of_eq inBounds.home ?_⟩
  exact List.length_mapIdx.symm

end HomingMove

namespace SimulatedHoming

/-! ## Aligned lists -/

/-- As many names as moves are recorded, so that every place holds one of each. -/
def Aligned (homing : SimulatedHoming α) : Prop := homing.homedRails.length = homing.moves.length

/-- The moves with the names of their rails, place by place. -/
def pairs (homing : SimulatedHoming α) : List (HomingMove α × String) :=
  homing.moves.zip homing.homedRails

theorem Aligned.recording {homing : SimulatedHoming α} (aligned : homing.Aligned)
    (granted : List (HomingCall α)) :
    (homing.recording granted).Aligned ∧ (homing.recording granted).pairs =
      homing.pairs ++ granted.map fun call => (call.move, call.railName) := by
  constructor
  · simp only [Aligned, SimulatedHoming.recording, List.length_append, List.length_map]
    exact congrArg (· + granted.length) aligned
  · simp only [pairs, SimulatedHoming.recording]
    rw [List.zip_append aligned.symm, ← List.zip_map']

/-! ## A run of calls -/

section

/-- Make calls one after another, also behind one that fails. -/
def serveCalls (homing : SimulatedHoming α) :
    List (HomingCall α) → List (Except HomingFault Unit) × SimulatedHoming α
  | [] => ([], homing)
  | call :: rest =>
    let answered := (host.homeRails homing call.rails call.move).value
    let later := answered.2.serveCalls rest
    (answered.1 :: later.1, later.2)

/-- Whether a call is granted, which no call changes. -/
def grants (homing : SimulatedHoming α) (call : HomingCall α) : Bool :=
  homing.silent ≠ some call.move.axis

def answer (homing : SimulatedHoming α) (call : HomingCall α) : Except HomingFault Unit :=
  if homing.silent = some call.move.axis then .error (.noTrigger call.railName) else .ok ()

variable {homing : SimulatedHoming α}

theorem value_homeRails_of_grants {call : HomingCall α} (granted : homing.grants call = true) :
    (host.homeRails homing call.rails call.move).value =
      (homing.answer call, homing.recording [call]) := by
  have apart : homing.silent ≠ some call.move.axis := of_decide_eq_true granted
  rw [value_homeRails, answer, if_neg apart, if_neg apart]

theorem value_homeRails_of_not_grants {call : HomingCall α}
    (refused : ¬ homing.grants call = true) :
    (host.homeRails homing call.rails call.move).value = (homing.answer call, homing) := by
  have same : homing.silent = some call.move.axis := by
    simpa [grants] using refused
  rw [value_homeRails, answer, if_pos same, if_pos same]

variable (homing) (calls : List (HomingCall α))

/-- A run of calls records the granted ones. -/
theorem serveCalls_eq : homing.serveCalls calls =
    (calls.map homing.answer, homing.recording (calls.filter homing.grants)) := by
  induction calls generalizing homing with
  | nil => simp [serveCalls]
  | cons call rest inductionHypothesis =>
    rw [serveCalls]
    by_cases granted : homing.grants call = true
    · rw [value_homeRails_of_grants granted, inductionHypothesis,
        List.filter_cons_of_pos granted, recording_cons homing call (rest.filter homing.grants)]
      rfl
    · rw [value_homeRails_of_not_grants granted, inductionHypothesis,
        List.filter_cons_of_neg granted]
      rfl

variable {homing}

/-- The states of a host that was new once. -/
inductive Made : SimulatedHoming α → Prop where
  | new (wanted : List Nat) : Made ⟨wanted, none, [], []⟩
  | failingOn {homing : SimulatedHoming α} (made : Made homing) (axis : Nat) :
      Made (homing.failingOn axis)
  | served {homing : SimulatedHoming α} (made : Made homing) (calls : List (HomingCall α)) :
      Made (homing.serveCalls calls).2

theorem Made.aligned (made : homing.Made) : homing.Aligned := by
  induction made with
  | new wanted => rfl
  | failingOn _ axis aligned => exact aligned
  | served _ calls aligned =>
    rw [serveCalls_eq]
    exact (aligned.recording _).1

/-- No call records the silent axis. -/
theorem silent_mem_homedAxes_iff {axis : Nat} (silent : homing.silent = some axis) :
    axis ∈ (homing.serveCalls calls).2.homedAxes ↔ axis ∈ homing.homedAxes := by
  rw [serveCalls_eq, homedAxes_recording, List.mem_append, or_iff_left]
  intro recorded
  rcases List.mem_map.mp recorded with ⟨call, listed, rfl⟩
  have apart : homing.silent ≠ some call.move.axis :=
    of_decide_eq_true (List.mem_filter.mp listed).2
  exact apart silent

end

/-! ## Where a run of moves ends -/

section

variable [Scalar α] {triplet : Triplet Nat}

theorem afterMove_of_foreign {move : HomingMove α} (foreign : move.axis ∉ triplet.toList)
    (position : Point α) : afterMove triplet position move = position := by
  have unplaced : slotWithin triplet move.axis = none := by
    refine List.find?_eq_none.mpr fun slot _ held => foreign ?_
    rw [← beq_iff_eq.mp held]
    cases slot <;> simp [Triplet.toList, Triplet.get]
  rw [afterMove, unplaced]

/-- Only the moves of the axes of a triplet matter to a position within it. -/
theorem finalPosition_congr {first second : SimulatedHoming α}
    (same : (first.moves.filter (·.axis ∈ triplet.toList)) =
      second.moves.filter (·.axis ∈ triplet.toList)) :
    first.finalPosition triplet = second.finalPosition triplet := by
  have skip : (fun position (move : HomingMove α) =>
      if decide (move.axis ∈ triplet.toList) = true then afterMove triplet position move
        else position) = afterMove triplet := by
    funext position move
    by_cases carried : move.axis ∈ triplet.toList
    · rw [if_pos (decide_eq_true carried)]
    · rw [if_neg (mt of_decide_eq_true carried), afterMove_of_foreign carried]
  have folded := congrArg (List.foldl (afterMove triplet) (Triplet.const 0.0)) same
  rwa [List.foldl_filter, List.foldl_filter, skip] at folded

/-- The last move of the axis of a slot decides the slot. -/
theorem get_finalPosition_of_last
    (distinct : ∀ first second, triplet.get first = triplet.get second → first = second)
    {homing : SimulatedHoming α} {earlier later : List (HomingMove α)} {last : HomingMove α}
    {slot : Slot} (made : homing.moves = earlier ++ last :: later)
    (own : last.axis = triplet.get slot) (others : ∀ move ∈ later, move.axis ≠ triplet.get slot) :
    (homing.finalPosition triplet).get slot = last.target.getD 0.0 := by
  have unmoved : later.filter (fun move => move.axis = triplet.get slot) = [] :=
    List.filter_eq_nil_iff.mpr fun move listed same => others move listed (of_decide_eq_true same)
  rw [get_finalPosition distinct, made, List.filter_append]
  simp [own, unmoved]

end

variable [Scalar α]

/-- What calls leave behind, made in any number and for any axes to a host without hardware.
A call fails exactly if it is for the silent axis, and changes nothing then; every other call
adds its move to one list and the name of its first rail to another, both at the end.  The
lists of a new host are aligned, and lists that are aligned stay so, with the entries of each
call at one place.  The silent axis is homed afterwards only if it was before.

A final position is zero in the slot of an axis that was not homed.  Otherwise it is the target
of the last move of the axis, and zero where that is gone.  Moves of other axes do not matter
to it.  Moves to call with there are for the axes of a machine whose targets fit into memory. -/
theorem records_of_calls (homing : SimulatedHoming α) (calls : List (HomingCall α)) :
    let answers := (homing.serveCalls calls).1
    let after := (homing.serveCalls calls).2
    let granted := calls.filter fun call => homing.silent ≠ some call.move.axis
    answers = (calls.map fun call =>
      if homing.silent = some call.move.axis then .error (.noTrigger call.railName)
      else .ok ()) ∧
    (after.wanted = homing.wanted ∧ after.silent = homing.silent) ∧
    (after.moves = homing.moves ++ granted.map (·.move) ∧
      after.homedRails = homing.homedRails ++ granted.map (·.railName) ∧
      after.homedAxes = homing.homedAxes ++ granted.map (·.move.axis)) ∧
    (homing.Made → homing.Aligned) ∧
    (homing.Aligned → after.Aligned ∧
      after.pairs = homing.pairs ++ granted.map fun call => (call.move, call.railName)) ∧
    (∀ axis, homing.silent = some axis → (axis ∈ after.homedAxes ↔ axis ∈ homing.homedAxes)) ∧
    ((∀ move ∈ homing.moves, move.Laid) → (∀ call ∈ calls, call.move.Laid) →
      ∀ triplet : Triplet Nat,
      (∀ first second, triplet.get first = triplet.get second → first = second) →
      ∃ position, after.finalPosition? triplet = some position ∧
        after.finalPosition triplet = position ∧
        (∀ slot, triplet.get slot ∉ after.homedAxes → position.get slot = 0.0) ∧
        (∀ slot earlier last later, after.moves = earlier ++ last :: later →
          last.axis = triplet.get slot → (∀ move ∈ later, move.axis ≠ triplet.get slot) →
            ∃ target, last.homePos[last.axis]? = some target ∧
              position.get slot = target.getD 0.0) ∧
        ∀ other : SimulatedHoming α, other.moves.filter (·.axis ∈ triplet.toList) =
          after.moves.filter (·.axis ∈ triplet.toList) →
            other.finalPosition triplet = position) ∧
    ∀ (axis : Nat) (rail : Rail α) (axisCount : Nat),
      (∃ move, HomingMove.ofRail? axis rail axisCount = some move) ↔
        axis < axisCount ∧ axisCount < targetLimit := by
  intro answers after granted
  have recorded : after = homing.recording granted := congrArg Prod.snd (serveCalls_eq homing calls)
  refine ⟨congrArg Prod.fst (serveCalls_eq homing calls), recorded ▸ ⟨rfl, rfl⟩,
    recorded ▸ ⟨rfl, rfl, homedAxes_recording homing granted⟩, Made.aligned, fun aligned => ?_,
    fun axis => silent_mem_homedAxes_iff calls, fun kept made triplet distinct => ?_,
    fun _ _ _ => HomingMove.exists_ofRail?_iff⟩
  · rw [recorded]
    exact aligned.recording granted
  · have laid : ∀ move ∈ after.moves, move.InBounds := by
      intro move listed
      rw [recorded, moves_recording] at listed
      rcases List.mem_append.mp listed with before | added
      · exact (kept move before).inBounds
      · rcases List.mem_map.mp added with ⟨call, grantedCall, rfl⟩
        exact (made call (List.mem_filter.mp grantedCall).1).inBounds
    refine ⟨after.finalPosition triplet, finalPosition?_eq_some laid triplet, rfl,
      fun slot => get_finalPosition_of_not_mem distinct, ?_, fun other => finalPosition_congr⟩
    intro slot earlier last later split own others
    have inside : last.axis < last.homePos.length :=
      (laid last (split ▸ List.mem_append_right earlier List.mem_cons_self)).home
    refine ⟨_, List.getElem?_eq_getElem inside, ?_⟩
    rw [get_finalPosition_of_last distinct split own others, HomingMove.target,
      List.getElem?_eq_getElem inside, Option.join_some]

/-- A host whose first axis is silent, with the third one homed already. -/
def halfway : SimulatedHoming ℚ :=
  ⟨[1, 0], some 0, [.ofRail 2 Rail.downwards 6], [railName "Z"]⟩

/-- Calls for the second axis, the silent one, the second one again without its target and
without a rail, and an axis of another triplet. -/
def repeatedCalls : List (HomingCall ℚ) :=
  [⟨[Rail.downwards], .ofRail 1 Rail.downwards 6⟩, ⟨[Rail.downwards], .ofRail 0 Rail.downwards 6⟩,
    ⟨[], (HomingMove.ofRail 1 Rail.downwards 6).blanked [1]⟩,
    ⟨[Rail.downwards], .ofRail 5 Rail.downwards 6⟩]

theorem laid_downwards {axis : Nat} (inside : axis < 6) :
    (HomingMove.ofRail axis Rail.downwards 6 : HomingMove ℚ).Laid := by
  rw [← HomingMove.blanked_nil (HomingMove.ofRail axis Rail.downwards 6)]
  exact HomingMove.laid_of_ofRail? (if_pos ⟨inside, by decide⟩) []

theorem records_of_calls_repeated :
    halfway.Aligned ∧ (∀ move ∈ halfway.moves, move.Laid) ∧
      (∀ call ∈ repeatedCalls, call.move.Laid) ∧
      (halfway.serveCalls repeatedCalls).2.pairs.map Prod.snd =
        [railName "Z", railName "X", "", railName "X"] ∧
      0 ∉ (halfway.serveCalls repeatedCalls).2.homedAxes ∧
      ∃ position, (halfway.serveCalls repeatedCalls).2.finalPosition? ⟨0, 1, 2⟩ = some position ∧
        position.get .y = 0.0 ∧ position.get .z = 30.0 := by
  have kept : ∀ move ∈ halfway.moves, move.Laid :=
    List.forall_mem_singleton.mpr (laid_downwards (by decide))
  have made : ∀ call ∈ repeatedCalls, call.move.Laid := by
    simp only [repeatedCalls, List.forall_mem_cons]
    exact ⟨laid_downwards (by decide), laid_downwards (by decide),
      HomingMove.laid_of_ofRail? (if_pos (by decide)) [1], laid_downwards (by decide), nofun⟩
  have distinct : ∀ first second,
      (⟨0, 1, 2⟩ : Triplet Nat).get first = (⟨0, 1, 2⟩ : Triplet Nat).get second →
        first = second := by
    intro first second
    cases first <;> cases second <;> decide
  rcases records_of_calls halfway repeatedCalls with ⟨-, -, -, -, aligned, silent, ends, -⟩
  rcases ends kept made ⟨0, 1, 2⟩ distinct with ⟨position, found, -, -, decided, -⟩
  have pairs := congrArg (List.map Prod.snd) (aligned rfl).2
  have unhomed : 0 ∉ halfway.homedAxes := by decide
  refine ⟨rfl, kept, made, pairs.trans rfl, mt (silent 0 rfl).mp unhomed, position, found, ?_, ?_⟩
  · rcases decided .y [_, _] _ [_] rfl rfl (by decide) with ⟨target, atAxis, reached⟩
    cases atAxis
    exact reached
  · rcases decided .z [] _ _ rfl rfl (by decide) with ⟨target, atAxis, reached⟩
    cases atAxis
    exact reached

/-- A host that homed its first axis before the endstop of that axis fell silent. -/
def silencedLate : SimulatedHoming ℚ :=
  let new : SimulatedHoming ℚ := ⟨[0], none, [], []⟩
  (new.serveCalls [⟨[Rail.downwards], .ofRail 0 Rail.downwards 6⟩]).2.failingOn 0

/-- An axis that fell silent after it was homed stays recorded.  And not every axis can be
called for: one that the machine does not have has no move. -/
theorem exists_silent_axis_recorded :
    (¬ ∀ (homing : SimulatedHoming ℚ) (calls : List (HomingCall ℚ)) (axis : Nat), homing.Made →
      (∀ move ∈ homing.moves, move.Laid) → (∀ call ∈ calls, call.move.Laid) →
        homing.silent = some axis → axis ∉ (homing.serveCalls calls).2.homedAxes) ∧
    ¬ ∀ (axis : Nat) (rail : Rail ℚ) (axisCount : Nat),
      ∃ move, HomingMove.ofRail? axis rail axisCount = some move := by
  constructor
  · intro never
    have made : silencedLate.Made := ((Made.new [0]).served _).failingOn 0
    have kept : ∀ move ∈ silencedLate.moves, move.Laid :=
      List.forall_mem_singleton.mpr (laid_downwards (by decide))
    have homed : 0 ∈ (silencedLate.serveCalls []).2.homedAxes := by decide
    exact never silencedLate [] 0 made kept nofun rfl homed
  · intro laid
    rcases laid 5 Rail.downwards 3 with ⟨move, found⟩
    cases found

end SimulatedHoming

end BeltGantry

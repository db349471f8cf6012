import BeltGantry.Proofs.Gantry.Command
import BeltGantry.Proofs.Session.History
namespace BeltGantry

/-!
# Commanded positions in a session

The history of a session decides where every stepper stands: where its binding
puts the coordinate that was set last on its gantry, or the origin before any was
set.  The same coordinate is the one that the gantry keeps.  Requests to other
gantries, losses of power and whatever fails, homes, forgets, checks or reports
are of no account.
-/

variable {α : Type}

/-- The coordinate that a request pushes to the rails of the gantry with a given
number, in view of the answer. -/
def Request.pushed? (number : Nat) : Request α → Reply α → Option (Point α)
  | .operate other operation, reply => if number = other then operation.pushed? reply else none
  | _, _ => none

namespace Session

/-- The coordinate that was set last on a gantry, as a history shows. -/
def lastPushed? (number : Nat) (history : List (Request α × Reply α)) : Option (Point α) :=
  lastEvent? (Request.pushed? number) history

variable [Scalar α]

/-- A gantry that was there before a request comes out of it moved as the answer tells. -/
theorem Origin.moved {session : Session α} {number : Nat} {before after : Gantry α}
    {request : Request α} (origin : session.Origin number after request)
    (held : session.gantry? number = some before) :
    before.Moved after (request.pushed? number (session.perform request).value.1) := by
  cases origin with
  | built last succeeded =>
    rw [last, gantry?_length] at held
    cases held
  | operated was performed =>
    rename_i operation
    rw [was] at held
    cases held
    rw [value_operate, was, ← performed]
    simpa [Request.pushed?] using before.moved_perform operation
  | unpowered was forgotten =>
    rw [was] at held
    cases held
    rw [← forgotten]
    exact ⟨rfl, rfl⟩
  | passed was elsewhere untold =>
    rw [was] at held
    cases held
    have nothing : request.pushed? number (session.perform request).value.1 = none := by
      cases request with
      | operate other operation =>
        have apart : number ≠ other := by
          rintro rfl
          exact elsewhere operation rfl
        simp [Request.pushed?, apart]
      | _ => rfl
    rw [nothing]
    exact Gantry.Moved.refl before

/-- Nothing is pushed to a gantry that is not there. -/
theorem pushed?_of_absent {session : Session α} {number : Nat}
    (absent : session.gantry? number = none) (request : Request α) :
    request.pushed? number (session.perform request).value.1 = none := by
  cases request with
  | operate other operation =>
    by_cases same : number = other
    · subst same
      rw [value_operate, absent]
      cases operation <;> simp [Request.pushed?, Operation.pushed?]
    · simp [Request.pushed?, same]
  | _ => rfl

theorem lastPushed?_trace (session : Session α) (earlier : List (Request α))
    (request : Request α) (number : Nat) :
    lastPushed? number (session.trace (earlier ++ [request])) =
      (request.pushed? number ((session.run earlier).perform request).value.1).or
        (lastPushed? number (session.trace earlier)) :=
  lastEvent?_trace (Request.pushed? number) session earlier request

theorem lastPushed?_of_absent (toolhead : Toolhead α) {requests : List (Request α)}
    {number : Nat} (absent : gantry? ((start toolhead).run requests) number = none) :
    lastPushed? number ((start toolhead).trace requests) = none := by
  induction requests using List.reverseRecOn with
  | nil => rfl
  | append_singleton earlier request inductionHypothesis =>
    rw [run_append] at absent
    have absentBefore := gantry?_eq_none_of_perform absent
    rw [lastPushed?_trace, pushed?_of_absent absentBefore, Option.none_or]
    exact inductionHypothesis absentBefore

/-- In every session that is reached, a gantry keeps the coordinate that was set last. -/
theorem position_run (toolhead : Toolhead α) {requests : List (Request α)} {number : Nat}
    {gantry : Gantry α}
    (held : gantry? ((start toolhead).run requests) number = some gantry) :
    gantry.position =
      (lastPushed? number ((start toolhead).trace requests)).getD (Triplet.const 0.0) := by
  induction requests using List.reverseRecOn generalizing gantry with
  | nil => simp [run, start, gantry?] at held
  | append_singleton earlier request inductionHypothesis =>
    rw [run_append] at held
    rw [lastPushed?_trace]
    cases present : gantry? ((start toolhead).run earlier) number with
    | none =>
      -- Only a build makes a gantry where there was none, and nothing was set on it yet.
      rw [pushed?_of_absent present, lastPushed?_of_absent toolhead present]
      cases origin_of_held held with
      | built last succeeded => exact Gantry.position_of_build succeeded
      | operated was performed => simp [present] at was
      | unpowered was forgotten => simp [present] at was
      | passed was elsewhere untold => simp [present] at was
    | some before =>
      rw [((origin_of_held held).moved present).position, inductionHypothesis present,
        Option.getD_or]

theorem inStep_run (rests : OriginRests α) (toolhead : Toolhead α) {requests : List (Request α)}
    {number : Nat} {gantry : Gantry α}
    (held : gantry? ((start toolhead).run requests) number = some gantry) : gantry.InStep := by
  refine forall_gantry?_run ?_ ?_ ?_ held
  · intro toolhead machine number queue letters indices built succeeded
    exact (Gantry.inStep_of_build rests succeeded).2
  · intro before operation inStep
    exact inStep.of_moved (before.moved_perform operation)
  · intro before time inStep
    exact inStep.of_moved (before.moved_motorsOff time)

/-- In every session that is reached, gantries are in step, and what they keep is the
coordinate that was set last. -/
theorem commanded_run (rests : OriginRests α) (toolhead : Toolhead α)
    {requests : List (Request α)} {number : Nat} {gantry : Gantry α}
    (held : gantry? ((start toolhead).run requests) number = some gantry) :
    gantry.position =
        (lastPushed? number ((start toolhead).trace requests)).getD (Triplet.const 0.0) ∧
      gantry.InStep :=
  ⟨position_run toolhead held, inStep_run rests toolhead held⟩

/-- The history decides all commanded positions: the gantry keeps the coordinate that
was set last, or the origin, and each stepper of each slot stands where the binding of
the slot puts it.  No request that sets no coordinate on the gantry changes either. -/
theorem commanded_of_history (toolhead : Toolhead Float) (requests : List (Request Float))
    (number : Nat) (gantry : Gantry Float)
    (held : gantry? ((start toolhead).run requests) number = some gantry) :
    let session := (start toolhead).run requests
    let commanded := (lastPushed? number ((start toolhead).trace requests)).getD ⟨0.0, 0.0, 0.0⟩
    gantry.position = commanded ∧
    (∀ slot rail, gantry.rails.get slot = some rail → ∀ stepper ∈ rail.steppers,
      stepper.binding = some (Binding.ofSlot slot) ∧
      stepper.position = (Binding.ofSlot slot).railPosition commanded) ∧
    ∀ request, request.pushed? number (session.perform request).value.1 = none →
      ∃ after, gantry? (session.perform request).value.2 number = some after ∧
        after.position = gantry.position ∧ after.rails = gantry.rails := by
  intro session commanded
  rcases commanded_run originRests_binary64 toolhead held with ⟨position, inStep⟩
  have kept : gantry.position = commanded := position
  refine ⟨kept, fun slot rail railHeld => ?_, fun request nothing => ?_⟩
  · rw [← kept]
    exact inStep slot rail railHeld
  · rcases exists_gantry?_perform held request with ⟨after, present, -⟩
    have moved := (origin_of_held present).moved held
    rw [nothing] at moved
    exact ⟨after, present, moved.position, moved.rails⟩

/-- A session in which a coordinate was set, one was refused, and an axis was homed at
the end of its rail without effect on the coordinate. -/
def settingTwice : List (Request Float) :=
  [.build .benchtop "XYZ" [0, 1, 2] none,
    .operate 0 (.setPosition ⟨10.0, 20.0, 5.0⟩ [2, 0, 1]),
    .operate 0 (.setPosition ⟨1.0, 2.0, 3.0⟩ [7]),
    .operate 0 (.home ⟨[0], none, [], []⟩ false), .motorsOff 0.5]

theorem isSome_settingTwice :
    (Session.gantry? ((start .benchtop).run settingTwice) 0).isSome = true := by
  decide

theorem commanded_of_history_settingTwice :
    ∃ gantry, gantry? ((start .benchtop).run settingTwice) 0 = some gantry ∧
      gantry.position = ⟨10.0, 20.0, 5.0⟩ ∧
      (∀ rail, gantry.rails.get .y = some rail → ∀ stepper ∈ rail.steppers,
        stepper.position = -10.0) ∧
      ∃ after, gantry? (((start .benchtop).run settingTwice).perform
          (.operate 0 .forgetThird)).value.2 0 = some after ∧
        after.rails = gantry.rails := by
  have held := (Option.some_get isSome_settingTwice).symm
  rcases commanded_of_history .benchtop settingTwice 0 _ held with ⟨position, steppers, still⟩
  have last : lastPushed? 0 ((start .benchtop).trace settingTwice) =
      some ⟨10.0, 20.0, 5.0⟩ := by
    decide +kernel
  have difference : Binding.coupledMinus.railPosition (⟨10.0, 20.0, 5.0⟩ : Point Float) = -10.0 := by
    decide +kernel
  rw [last] at position steppers
  refine ⟨_, held, position, fun rail railHeld stepper listed => ?_, ?_⟩
  · exact (steppers .y rail railHeld stepper listed).2.trans difference
  · rcases still (.operate 0 .forgetThird) (by decide +kernel) with ⟨after, present, -, rails⟩
    exact ⟨after, present, rails⟩

end Session

end BeltGantry

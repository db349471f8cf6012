import BeltGantry.Proofs.Session.Step
namespace BeltGantry.Session

/-!
# The history of a session

A run of a session, written down as its requests with their answers, decides
every limit.  A slot has the whole range of its rail if the last event that
touched it set a coordinate with its axis listed, and it is unhomed if that event
forgot it or if nothing touched it.  No other account of the session is needed:
not the order in which gantries were built, nor what was asked of the others.

A loss of power before the gantry was built is in the history as well.  It makes
no difference, since a new gantry has no homed slot.
-/

variable {α : Type}

/-- The last event of a kind in a history. -/
def lastEvent? {ε : Type} (event? : Request α → Reply α → Option ε)
    (history : List (Request α × Reply α)) : Option ε :=
  (history.filterMap fun (request, reply) => event? request reply).getLast?

theorem lastEvent?_append {ε : Type} (event? : Request α → Reply α → Option ε)
    (history : List (Request α × Reply α)) (request : Request α) (reply : Reply α) :
    lastEvent? event? (history ++ [(request, reply)]) =
      (event? request reply).or (lastEvent? event? history) := by
  unfold lastEvent?
  rw [List.filterMap_append, List.getLast?_append]
  cases happened : event? request reply <;> simp [happened]

/-- How the last event of a history that touched a slot did so. -/
def lastTouch? (number : Nat) (slot : Slot) (index : Nat)
    (history : List (Request α × Reply α)) : Option Touch :=
  lastEvent? (fun request => request.touch? number slot index) history

variable [Scalar α]

/-- The requests of a run with their answers. -/
def trace (session : Session α) : List (Request α) → List (Request α × Reply α)
  | [] => []
  | request :: rest =>
    (request, (session.perform request).value.1) :: trace (session.perform request).value.2 rest

theorem trace_append (session : Session α) (earlier later : List (Request α)) :
    session.trace (earlier ++ later) =
      session.trace earlier ++ (session.run earlier).trace later := by
  induction earlier generalizing session with
  | nil => rfl
  | cons request rest inductionHypothesis =>
    simp only [List.cons_append, trace, inductionHypothesis]
    rfl

theorem lastEvent?_trace {ε : Type} (event? : Request α → Reply α → Option ε)
    (session : Session α) (earlier : List (Request α)) (request : Request α) :
    lastEvent? event? (session.trace (earlier ++ [request])) =
      (event? request ((session.run earlier).perform request).value.1).or
        (lastEvent? event? (session.trace earlier)) := by
  rw [trace_append]
  exact lastEvent?_append ..

theorem lastTouch?_trace (session : Session α) (earlier : List (Request α)) (request : Request α)
    (number : Nat) (slot : Slot) (index : Nat) :
    lastTouch? number slot index (session.trace (earlier ++ [request])) =
      (request.touch? number slot index ((session.run earlier).perform request).value.1).or
        (lastTouch? number slot index (session.trace earlier)) :=
  lastEvent?_trace (fun request => request.touch? number slot index) session earlier request

/-- Before a gantry is built, nothing homes its slots. -/
theorem lastTouch?_ne_homed_of_absent (toolhead : Toolhead α) {requests : List (Request α)}
    {number : Nat} (absent : gantry? ((start toolhead).run requests) number = none)
    (slot : Slot) (index : Nat) :
    lastTouch? number slot index ((start toolhead).trace requests) ≠ some .homed := by
  induction requests using List.reverseRecOn with
  | nil => simp [trace, lastTouch?, lastEvent?]
  | append_singleton earlier request inductionHypothesis =>
    rw [run_append] at absent
    have absentBefore := gantry?_eq_none_of_perform absent
    rw [lastTouch?_trace, ne_eq, Option.or_eq_some_iff]
    rintro (homed | ⟨-, homed⟩)
    · exact touch?_ne_homed_of_absent absentBefore request slot index homed
    · exact inductionHypothesis absentBefore homed

end BeltGantry.Session

namespace BeltGantry.Gantry

variable {α : Type} [Scalar α]

/-- The limit of a slot bears out how it was touched last. -/
def BearsOut (gantry : Gantry α) (slot : Slot) : Option Touch → Prop
  | some .homed => gantry.railRange? slot = some (gantry.limits.get slot)
  | _ => gantry.limits.get slot = Limit.unhomed

theorem bearsOut_iff_of_ne_homed {gantry : Gantry α} {slot : Slot} {last : Option Touch}
    (notHomed : last ≠ some .homed) :
    gantry.BearsOut slot last ↔ gantry.limits.get slot = Limit.unhomed := by
  cases last with
  | none => exact Iff.rfl
  | some touch =>
    cases touch with
    | homed => exact absurd rfl notHomed
    | forgotten => exact Iff.rfl

/-- A touch takes the place of all earlier ones, provided that it homes no dummy. -/
theorem BearsOut.of_touched {before after : Gantry α} {slot : Slot} {last next : Option Touch}
    (borneOut : before.BearsOut slot last) (sound : before.Sound) (same : before.SameRails after)
    (limit : after.limits.get slot = before.touched slot next)
    (configured : next = some .homed → before.axisSet.isDummy slot = false) :
    after.BearsOut slot (next.or last) := by
  have sameRange := same.railRange? slot
  match next with
  | none =>
    unfold BearsOut
    rw [limit, sameRange]
    exact borneOut
  | some .forgotten => exact limit
  | some .homed =>
    have fitted := sound.fitted slot
    rw [configured rfl] at fitted
    rcases Option.isSome_iff_exists.mp fitted with ⟨range, ranged⟩
    change after.railRange? slot = some (after.limits.get slot)
    rw [limit, sameRange, touched_homed ranged]
    exact ranged

end BeltGantry.Gantry

namespace BeltGantry.Session

variable {α : Type} [Scalar α]

/-- Every limit bears out the history of the session. -/
theorem bearsOut_run (toolhead : Toolhead α) {requests : List (Request α)}
    (indirect : ∀ request ∈ requests, request.isDirectWrite = false) {number : Nat}
    {gantry : Gantry α} (held : gantry? ((start toolhead).run requests) number = some gantry)
    (slot : Slot) :
    gantry.BearsOut slot (lastTouch? number slot (gantry.axisSet.globalIndex slot)
      ((start toolhead).trace requests)) := by
  induction requests using List.reverseRecOn generalizing gantry with
  | nil => simp [run, start, gantry?] at held
  | append_singleton earlier request inductionHypothesis =>
    rcases List.forall_mem_append.mp indirect with ⟨indirectEarlier, indirectLast⟩
    have indirectRequest := indirectLast request (List.mem_singleton_self request)
    have sound := (sound_start toolhead).run earlier indirectEarlier
    rw [run_append] at held
    rw [lastTouch?_trace]
    rcases gantry?_cases sound indirectRequest held with
      ⟨machine, letters, indices, queue, built, absent, succeeded⟩ |
      ⟨before, present, same, limits⟩
    · -- The request built the gantry, so no earlier event homed a slot of it.
      subst built
      have notHomed := lastTouch?_ne_homed_of_absent toolhead absent slot
        (gantry.axisSet.globalIndex slot)
      exact (Gantry.bearsOut_iff_of_ne_homed notHomed).mpr
        (Gantry.limits_of_build succeeded slot)
    · have sameIndex : gantry.axisSet.globalIndex slot = before.axisSet.globalIndex slot := by
        rw [same.axisSet]
      have soundBefore := sound.gantries number before present
      rw [sameIndex]
      exact (inductionHypothesis indirectEarlier present).of_touched soundBefore same
        (limits slot) (isDummy_of_touch? present)

def limitsAt (session : Session α) (number : Nat) : Option (Limits α) :=
  Option.map Gantry.limits <| session.gantry? number

/-- An operation of the kind that changes no limit changes none in the whole session. -/
theorem limitsAt_of_isQuiet (session : Session α) {other : Nat} {operation : Operation α}
    (quiet : operation.isQuiet (session.perform (.operate other operation)).value.1 = true)
    (number : Nat) :
    limitsAt (session.perform (.operate other operation)).value.2 number =
      session.limitsAt number := by
  unfold limitsAt
  rw [gantry?_operate]
  by_cases same : number = other
  · subst same
    rw [if_pos rfl]
    cases held : session.gantry? number with
    | none => rfl
    | some gantry =>
      rw [value_operate, held] at quiet
      exact congrArg some (gantry.limits_of_isQuiet quiet)
  · rw [if_neg same]

/-- The limit of a slot is decided by the last event that touched it: it is the
range of the rail if that event set a coordinate with the axis of the slot
listed, and the limit of a slot that is not homed otherwise.  Whatever fails,
homes, checks or reports next changes no limit of any gantry. -/
theorem limit_of_history (toolhead : Toolhead α) (requests : List (Request α))
    (indirect : ∀ request ∈ requests, request.isDirectWrite = false) (number : Nat)
    (gantry : Gantry α) (held : gantry? ((start toolhead).run requests) number = some gantry)
    (slot : Slot) :
    let session := (start toolhead).run requests
    let last := lastTouch? number slot (gantry.axisSet.globalIndex slot)
      ((start toolhead).trace requests)
    (last = some .homed → ∃ rail, gantry.rails.get slot = some rail ∧
      gantry.limits.get slot = ⟨rail.positionMin, rail.positionMax⟩) ∧
    (last ≠ some .homed → gantry.limits.get slot = ⟨1.0, -1.0⟩) ∧
    ∀ other operation,
      operation.isQuiet (session.perform (.operate other operation)).value.1 = true →
      ∀ each, limitsAt (session.perform (.operate other operation)).value.2 each =
        session.limitsAt each := by
  intro session last
  have borneOut : gantry.BearsOut slot last := bearsOut_run toolhead indirect held slot
  refine ⟨?_, ?_, ?_⟩
  · intro homed
    rw [homed] at borneOut
    rcases Option.map_eq_some_iff.mp borneOut with ⟨rail, railHeld, ranged⟩
    exact ⟨rail, railHeld, ranged.symm⟩
  · intro notHomed
    exact (Gantry.bearsOut_iff_of_ne_homed notHomed).mp borneOut
  · intro other operation quiet each
    exact session.limitsAt_of_isQuiet quiet each

/-- A session in which the third slot was homed and forgotten. -/
def forgettingThird : List (Request Float) :=
  [.build .benchtop "XYZ" [0, 1, 2] none, .motorsOff 0.5,
    .operate 0 (.setPosition ⟨10.0, 20.0, 5.0⟩ [2, 0, 1]), .operate 0 .forgetThird]

theorem isSome_forgettingThird :
    (Session.gantry? ((start .benchtop).run forgettingThird) 0).isSome = true := by
  decide

theorem limit_of_history_forgettingThird :
    (∀ request ∈ forgettingThird, request.isDirectWrite = false) ∧
    ∃ gantry, gantry? ((start .benchtop).run forgettingThird) 0 = some gantry ∧
      (∃ rail, gantry.rails.get .x = some rail ∧
        gantry.limits.get .x = ⟨rail.positionMin, rail.positionMax⟩) ∧
      gantry.limits.get .z = ⟨1.0, -1.0⟩ ∧
      ∀ number, limitsAt
          (((start .benchtop).run forgettingThird).perform
            (.operate 0 (.forgetAxis 7))).value.2 number =
        ((start .benchtop).run forgettingThird).limitsAt number := by
  have indirect : ∀ request ∈ forgettingThird, request.isDirectWrite = false := by
    simp [forgettingThird, Request.isDirectWrite, Operation.isDirectWrite]
  have held := (Option.some_get isSome_forgettingThird).symm
  have atX := limit_of_history .benchtop forgettingThird indirect 0 _ held .x
  have atZ := limit_of_history .benchtop forgettingThird indirect 0 _ held .z
  exact ⟨indirect, _, held, atX.1 (by decide +kernel), atZ.2.1 (by decide +kernel),
    atX.2.2 0 (.forgetAxis 7) (by decide +kernel)⟩

end BeltGantry.Session

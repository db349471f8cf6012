import BeltGantry.Proofs.Gantry.Renumbering
import BeltGantry.Proofs.Session.Building
namespace BeltGantry

/-!
# Gantries do not interfere

Gantries of one session share a toolhead and an event bus, and they may share
axes, letters and the names of rails and steppers.  Still, no gantry can tell
whether there are others.  Delete everything that concerns the others from a
session and keep the losses of power: the remaining gantry, now of number zero,
gives the same answers and ends in the same state, apart from the numbers in the
handles of its steppers.

What the two sessions have in common is `Mirrors`.  A request that is deleted
keeps it, and a request that stays is answered alike and keeps it too.
-/

variable {α : Type}

namespace Request

/-- Whether a request builds the gantry of a number or asks something of it, when
the next build takes the number `next`. -/
def concerns (number next : Nat) : Request α → Bool
  | .build .. => next = number
  | .operate other _ => other = number
  | .motorsOff _ => false

/-- What is left of a request when all gantries but one are deleted, which then has
number zero. -/
def solo? (number next : Nat) : Request α → Option (Request α)
  | .build machine letters indices queue =>
    if next = number then some (.build machine letters indices queue) else none
  | .operate other operation => if other = number then some (.operate 0 operation) else none
  | .motorsOff time => some (.motorsOff time)

end Request

/-- An answer with the handles in it renumbered.  Only the answer to a build has any. -/
def Reply.renumber (distance : Nat) : Reply α → Reply α
  | .built result => .built (result.map (Gantry.renumber distance))
  | reply => reply

namespace Session

/-- What is left of a list of requests when all gantries but one are deleted; the
first build of the list takes the number `next`. -/
def solo (number : Nat) : (next : Nat) → List (Request α) → List (Request α)
  | _, [] => []
  | next, request :: rest =>
    (request.solo? number next).toList ++ solo number (request.nextNumber next) rest

/-- The answers in a history to what concerns the gantry of a number; the first
build of the history took the number `next`. -/
def answers (number : Nat) : (next : Nat) → List (Request α × Reply α) → List (Reply α)
  | _, [] => []
  | next, (request, reply) :: rest =>
    let later := answers number (request.nextNumber next) rest
    if request.concerns number next then reply :: later else later

/-- The gantry of a number in one session is gantry zero, renumbered, of another one
that has no other gantries. -/
structure Mirrors (number : Nat) (whole alone : Session α) : Prop where
  toolhead : alone.toolhead.bare = whole.toolhead.bare
  count : alone.gantries.length = if number < whole.gantries.length then 1 else 0
  gantry? : whole.gantry? number =
    (alone.gantry? 0).map (Gantry.renumber (tripletSize * number))
  told : number ∈ whole.bus.subscribers .motorsOff ↔ 0 ∈ alone.bus.subscribers .motorsOff

theorem mirrors_start (toolhead : Toolhead α) (number : Nat) :
    Mirrors number (start toolhead) (start toolhead) where
  toolhead := rfl
  count := rfl
  gantry? := by simp [start, Session.gantry?]
  told := by simp [start]

variable {number : Nat} {whole alone : Session α}

theorem Mirrors.length_eq_zero (mirrors : Mirrors number whole alone)
    (own : whole.gantries.length = number) : alone.gantries.length = 0 := by
  rw [mirrors.count, own, if_neg (Nat.lt_irrefl number)]

variable [Scalar α]

/-! ## Requests to others -/

theorem Mirrors.build_other (mirrors : Mirrors number whole alone) (machine : Machine α)
    (letters : String) (indices : List Nat) (queue : Option MotionQueue)
    (other : whole.gantries.length ≠ number) :
    Mirrors number (whole.perform (.build machine letters indices queue)).value.2 alone where
  toolhead := by
    rw [toolhead_build, Gantry.bare_build]
    exact mirrors.toolhead
  count := by
    rw [length_perform, mirrors.count]
    change _ = if number < whole.gantries.length + 1 then 1 else 0
    congr 1
    rw [eq_iff_iff]
    omega
  gantry? := by
    rw [gantry?_build, if_neg other.symm]
    exact mirrors.gantry?
  told := by
    rw [subscribers_perform, ← mirrors.told]
    split <;> simp [other.symm]

theorem Mirrors.operate_other (mirrors : Mirrors number whole alone) {other : Nat}
    (operation : Operation α) (apart : other ≠ number) :
    Mirrors number (whole.perform (.operate other operation)).value.2 alone where
  toolhead := by
    rw [toolhead_operate]
    exact mirrors.toolhead
  count := by
    rw [length_perform]
    exact mirrors.count
  gantry? := by
    rw [gantry?_operate, if_neg apart.symm]
    exact mirrors.gantry?
  told := by
    rw [bus_operate]
    exact mirrors.told

/-! ## Requests that stay -/

/-- The gantry is built alike, since nothing of the others shows at the toolhead. -/
theorem Mirrors.nextBuild (mirrors : Mirrors number whole alone) (machine : Machine α)
    (letters : String) (indices : List Nat) (queue : Option MotionQueue)
    (own : whole.gantries.length = number) :
    (whole.nextBuild machine letters indices queue).1 =
      (alone.nextBuild machine letters indices queue).1.map
        (Gantry.renumber (tripletSize * number)) := by
  unfold Session.nextBuild
  rw [own, mirrors.length_eq_zero own, Gantry.build_number, ← Gantry.build_bare, ← mirrors.toolhead,
    Gantry.build_bare]

theorem Mirrors.build (mirrors : Mirrors number whole alone) (machine : Machine α)
    (letters : String) (indices : List Nat) (queue : Option MotionQueue)
    (own : whole.gantries.length = number) :
    Mirrors number (whole.perform (.build machine letters indices queue)).value.2
      (alone.perform (.build machine letters indices queue)).value.2 := by
  have outcome := mirrors.nextBuild machine letters indices queue own
  have first := mirrors.length_eq_zero own
  constructor
  · rw [toolhead_build, toolhead_build, Gantry.bare_build, Gantry.bare_build]
    exact mirrors.toolhead
  · rw [length_perform, length_perform, first, own]
    simp [Request.nextNumber]
  · rw [gantry?_build, gantry?_build, if_pos own.symm, if_pos first.symm]
    change (whole.nextBuild machine letters indices queue).1.toOption =
      (alone.nextBuild machine letters indices queue).1.toOption.map _
    rw [outcome]
    cases (alone.nextBuild machine letters indices queue).1 <;> rfl
  · rw [subscribers_perform, subscribers_perform, isBuilt_build, isBuilt_build, outcome, own,
      first, List.mem_append, List.mem_append, mirrors.told]
    cases (alone.nextBuild machine letters indices queue).1 <;>
      simp [Except.map, Except.isOk, Except.toBool]

theorem Mirrors.operate (mirrors : Mirrors number whole alone) (operation : Operation α) :
    Mirrors number (whole.perform (.operate number operation)).value.2
      (alone.perform (.operate 0 operation)).value.2 where
  toolhead := by
    rw [toolhead_operate, toolhead_operate]
    exact mirrors.toolhead
  count := by
    rw [length_perform, length_perform]
    exact mirrors.count
  gantry? := by
    rw [gantry?_operate, gantry?_operate, if_pos rfl, if_pos rfl, mirrors.gantry?,
      Option.map_map, Option.map_map]
    congr 1
    funext gantry
    exact congrArg Prod.snd (gantry.perform_renumber _ operation)
  told := by
    rw [bus_operate, bus_operate]
    exact mirrors.told

theorem Mirrors.motorsOff (mirrors : Mirrors number whole alone) (time : α) :
    Mirrors number (whole.perform (.motorsOff time)).value.2
      (alone.perform (.motorsOff time)).value.2 where
  toolhead := mirrors.toolhead
  count := by
    rw [length_perform, length_perform]
    exact mirrors.count
  gantry? := by
    rw [gantry?_motorsOff, gantry?_motorsOff, mirrors.gantry?]
    by_cases told : 0 ∈ alone.bus.subscribers .motorsOff
    · rw [if_pos told, if_pos (mirrors.told.mpr told), Option.map_map, Option.map_map]
      rfl
    · rw [if_neg told, if_neg fun toldWhole => told (mirrors.told.mp toldWhole)]
  told := mirrors.told

/-- No operation answers with a handle. -/
theorem renumber_of_perform (gantry : Gantry α) (operation : Operation α) (distance : Nat) :
    (gantry.perform operation).value.1.renumber distance = (gantry.perform operation).value.1 := by
  cases operation <;> rfl

theorem Mirrors.answer_build (mirrors : Mirrors number whole alone) (machine : Machine α)
    (letters : String) (indices : List Nat) (queue : Option MotionQueue)
    (own : whole.gantries.length = number) :
    (whole.perform (.build machine letters indices queue)).value.1 =
      (alone.perform (.build machine letters indices queue)).value.1.renumber
        (tripletSize * number) := by
  rw [value_build, value_build]
  exact congrArg Reply.built (mirrors.nextBuild machine letters indices queue own)

theorem Mirrors.answer_operate (mirrors : Mirrors number whole alone) (operation : Operation α) :
    (whole.perform (.operate number operation)).value.1 =
      (alone.perform (.operate 0 operation)).value.1.renumber (tripletSize * number) := by
  rw [value_operate, value_operate, mirrors.gantry?]
  cases alone.gantry? 0 with
  | none => rfl
  | some gantry =>
    exact (congrArg Prod.fst (gantry.perform_renumber _ operation)).trans
      (renumber_of_perform gantry operation _).symm

/-! ## Runs -/

/-- A request that is deleted concerns other gantries only. -/
theorem Mirrors.deleted (mirrors : Mirrors number whole alone) {request : Request α}
    (gone : request.solo? number whole.gantries.length = none) :
    Mirrors number (whole.perform request).value.2 alone ∧
      request.concerns number whole.gantries.length = false := by
  cases request with
  | build machine letters indices queue =>
    have other : whole.gantries.length ≠ number := by
      intro own
      simp [Request.solo?, own] at gone
    exact ⟨mirrors.build_other machine letters indices queue other, decide_eq_false other⟩
  | operate other operation =>
    have apart : other ≠ number := by
      intro own
      simp [Request.solo?, own] at gone
    exact ⟨mirrors.operate_other operation apart, decide_eq_false apart⟩
  | motorsOff time => cases gone

/-- A request that stays is answered alike, if it concerns the gantry. -/
theorem Mirrors.kept (mirrors : Mirrors number whole alone) {request kept : Request α}
    (stays : request.solo? number whole.gantries.length = some kept) :
    Mirrors number (whole.perform request).value.2 (alone.perform kept).value.2 ∧
      kept.concerns 0 alone.gantries.length = request.concerns number whole.gantries.length ∧
      (request.concerns number whole.gantries.length = true →
        (whole.perform request).value.1 =
          (alone.perform kept).value.1.renumber (tripletSize * number)) := by
  cases request with
  | build machine letters indices queue =>
    rcases Option.ite_none_right_eq_some.mp stays with ⟨own, same⟩
    cases same
    refine ⟨mirrors.build machine letters indices queue own, ?_, fun _ =>
      mirrors.answer_build machine letters indices queue own⟩
    simp [Request.concerns, own, mirrors.length_eq_zero own]
  | operate other operation =>
    rcases Option.ite_none_right_eq_some.mp stays with ⟨rfl, same⟩
    cases same
    refine ⟨mirrors.operate operation, ?_, fun _ => mirrors.answer_operate operation⟩
    simp [Request.concerns]
  | motorsOff time =>
    cases stays
    exact ⟨mirrors.motorsOff time, rfl, nofun⟩

theorem Mirrors.run (mirrors : Mirrors number whole alone) (requests : List (Request α)) :
    let remaining := solo number whole.gantries.length requests
    Mirrors number (whole.run requests) (alone.run remaining) ∧
      answers number whole.gantries.length (whole.trace requests) =
        (answers 0 alone.gantries.length (alone.trace remaining)).map
          (Reply.renumber (tripletSize * number)) := by
  induction requests generalizing whole alone with
  | nil => exact ⟨mirrors, rfl⟩
  | cons request rest inductionHypothesis =>
    intro remaining
    cases left : request.solo? number whole.gantries.length with
    | none =>
      rcases mirrors.deleted left with ⟨next, silent⟩
      have shorter : remaining = solo number (request.nextNumber whole.gantries.length) rest := by
        simp [remaining, solo, left]
      have later := inductionHypothesis next
      rw [length_perform] at later
      rw [shorter]
      refine ⟨later.1, ?_⟩
      simp only [trace, answers, silent, Bool.false_eq_true, if_false]
      exact later.2
    | some kept =>
      rcases mirrors.kept left with ⟨next, alike, answer⟩
      have longer : remaining =
          kept :: solo number (request.nextNumber whole.gantries.length) rest := by
        simp [remaining, solo, left]
      have later := inductionHypothesis next
      rw [length_perform, length_perform] at later
      rw [longer]
      refine ⟨later.1, ?_⟩
      simp only [trace, answers, alike]
      cases concerned : request.concerns number whole.gantries.length with
      | false => exact later.2
      | true =>
        rw [if_pos rfl, if_pos rfl, List.map_cons, answer concerned]
        exact congrArg (List.cons _) later.2

/-- A gantry answers and ends as if it had been alone in the session: deleting all
that concerns the others changes nothing for it but the numbers in the handles of
its steppers.  It is also homed alike, by any host that does not look at handles. -/
theorem answers_of_solo (toolhead : Toolhead α) (requests : List (Request α)) (number : Nat) :
    let remaining := solo number 0 requests
    let held := gantry? ((start toolhead).run requests) number
    let heldAlone := gantry? ((start toolhead).run remaining) 0
    answers number 0 ((start toolhead).trace requests) =
        (answers 0 0 ((start toolhead).trace remaining)).map
          (Reply.renumber (tripletSize * number)) ∧
      held = heldAlone.map (Gantry.renumber (tripletSize * number)) ∧
      ∀ (σ : Type) (host : HomingHost α σ) (state : σ), host.Blind →
        held.map (·.home host state) = heldAlone.map (·.home host state) := by
  intro remaining held heldAlone
  rcases (mirrors_start toolhead number).run requests with ⟨mirrors, alike⟩
  refine ⟨alike, mirrors.gantry?, fun σ host state blind => ?_⟩
  have renumbered : held = heldAlone.map _ := mirrors.gantry?
  rw [renumbered, Option.map_map]
  congr 1
  funext gantry
  exact gantry.home_renumber _ blind state

/-- The last gantry of the workshop has axes and rail names of the first, and comes
after a build that failed. -/
theorem answers_of_solo_workshop :
    let homing : SimulatedHoming Float := ⟨[1, 0], none, [], []⟩
    let held := gantry? ((start .benchtop).run workshop) 2
    let heldAlone := gantry? ((start .benchtop).run (solo 2 0 workshop)) 0
    held.isSome = true ∧
      solo 2 0 workshop = [.build .benchtop "YX" [1, 0] (some "shared")] ∧
      (SimulatedHoming.host (α := Float)).Blind ∧
      held.map (·.home SimulatedHoming.host homing) =
        heldAlone.map (·.home SimulatedHoming.host homing) := by
  have present : (Session.gantry? ((start .benchtop).run workshop) 2).isSome = true := by
    decide
  rcases answers_of_solo .benchtop workshop 2 with ⟨-, -, homes⟩
  exact ⟨present, rfl, SimulatedHoming.blind_host,
    homes _ SimulatedHoming.host _ SimulatedHoming.blind_host⟩

end Session

end BeltGantry

import Mathlib.Data.List.Induction
import BeltGantry.Proofs.Gantry.Invariant
namespace BeltGantry

/-!
# One request in a session

What a request makes of the gantry under a given number: a build fills the next
number and no other, an operation changes the gantry that it is asked of, and
the loss of power reaches each gantry whose number is subscribed.  In a sound
session the subscribed numbers are exactly those of the gantries that were
built, and every gantry is sound.  `gantry?_cases` puts the three together for
the gantry that a number has after a request.
-/

variable {α : Type}

namespace Request

/-- Whether a request writes a limit past all checks. -/
def isDirectWrite : Request α → Bool
  | .operate _ operation => operation.isDirectWrite
  | _ => false

/-- How a request touches a slot of the gantry with a given number, in view of
the answer. -/
def touch? (number : Nat) (slot : Slot) (index : Nat) : Request α → Reply α → Option Touch
  | .build .., _ => none
  | .operate other operation, reply =>
    if number = other then operation.touch? slot index reply else none
  | .motorsOff _, _ => some .forgotten

end Request

namespace Session

/-! ## The gantry of a number -/

theorem lt_of_join_getElem? {gantries : List (Option (Gantry α))} {number : Nat}
    {gantry : Gantry α} (held : gantries[number]?.join = some gantry) :
    number < gantries.length := by
  rcases Nat.lt_or_ge number gantries.length with inside | outside
  · exact inside
  · rw [List.getElem?_eq_none outside] at held
    cases held

theorem join_getElem?_set {gantries : List (Option (Gantry α))} {other : Nat}
    {before : Gantry α} (held : gantries[other]?.join = some before) (after : Gantry α)
    (number : Nat) :
    (gantries.set other (some after))[number]?.join =
      if number = other then some after else gantries[number]?.join := by
  by_cases same : number = other
  · subst same
    simp [lt_of_join_getElem? held]
  · simp [same, List.getElem?_set_ne (Ne.symm same)]

theorem gantry?_length (session : Session α) :
    session.gantry? session.gantries.length = none := by
  unfold gantry?
  simp

variable [Scalar α]

/-- A build takes the next number, subscribes it if it succeeds, and leaves the
toolhead as building the gantry leaves it. -/
theorem value_build (session : Session α) (machine : Machine α) (letters : String)
    (indices : List Nat) (queue : Option MotionQueue) :
    (session.perform (.build machine letters indices queue)).value =
      let number := session.gantries.length
      let built := (Gantry.build session.toolhead machine number queue letters indices).value
      (.built built.1,
        { toolhead := built.2
          bus := if built.1.isOk then session.bus.subscribe .motorsOff number else session.bus
          gantries := session.gantries ++ [built.1.toOption] }) := by
  simp only [perform, build, Noted.value_bind]
  cases (Gantry.build session.toolhead machine session.gantries.length queue letters
    indices).value.1 <;> rfl

theorem gantry?_build (session : Session α) (machine : Machine α) (letters : String)
    (indices : List Nat) (queue : Option MotionQueue) (number : Nat) :
    gantry? (session.perform (.build machine letters indices queue)).value.2 number =
      if number = session.gantries.length then
        (Gantry.build session.toolhead machine session.gantries.length queue letters
          indices).value.1.toOption
      else session.gantry? number := by
  rw [value_build]
  unfold gantry?
  by_cases last : number = session.gantries.length
  · simp [last]
  · rcases Nat.lt_or_gt_of_ne last with before | beyond
    · simp [last, List.getElem?_append_left before]
    · rw [if_neg last, List.getElem?_eq_none (Nat.le_of_lt beyond), List.getElem?_eq_none]
      rw [List.length_append]
      exact beyond

theorem value_operate (session : Session α) (other : Nat) (operation : Operation α) :
    (session.perform (.operate other operation)).value =
      match session.gantry? other with
      | none => (.absent, session)
      | some gantry =>
        let after := (gantry.perform operation).value.2
        ((gantry.perform operation).value.1,
          { session with gantries := session.gantries.set other (some after) }) := by
  simp only [perform]
  cases session.gantry? other <;> rfl

theorem gantry?_operate (session : Session α) (other : Nat) (operation : Operation α)
    (number : Nat) :
    gantry? (session.perform (.operate other operation)).value.2 number =
      if number = other then
        Option.map (fun gantry => (gantry.perform operation).value.2) <| session.gantry? number
      else session.gantry? number := by
  rw [value_operate]
  cases held : session.gantry? other with
  | none =>
    by_cases same : number = other
    · subst same
      simp [held]
    · simp [same]
  | some gantry =>
    refine (join_getElem?_set held (gantry.perform operation).value.2 number).trans ?_
    by_cases same : number = other
    · subst same
      simp [held]
    · rw [if_neg same, if_neg same]
      rfl

/-- Telling gantries of the loss of power reaches exactly those that are told. -/
theorem join_serveAll (time : α) (told : List Nat) (gantries : List (Option (Gantry α)))
    (number : Nat) :
    (EventBus.serveAll (serveMotorsOff time) told gantries).value[number]?.join =
      if number ∈ told then
        gantries[number]?.join.map fun gantry => (gantry.motorsOff time).value
      else gantries[number]?.join := by
  induction told generalizing gantries with
  | nil => simp [EventBus.serveAll]
  | cons first rest inductionHypothesis =>
    simp only [EventBus.serveAll, Noted.value_bind, inductionHypothesis, List.mem_cons]
    unfold serveMotorsOff
    cases held : gantries[first]?.join with
    | none =>
      by_cases same : number = first
      · subst same
        simp [held]
      · simp [same]
    | some gantry =>
      simp only [Noted.value_bind, Noted.value_pure, join_getElem?_set held]
      by_cases same : number = first
      · subst same
        -- A gantry that is told twice ends as one that is told once.
        simp only [if_true, true_or, held, Option.map_some]
        split <;> rfl
      · simp [same]

theorem gantry?_motorsOff (session : Session α) (time : α) (number : Nat) :
    gantry? (session.perform (.motorsOff time)).value.2 number =
      if number ∈ session.bus.subscribers .motorsOff then
        Option.map (fun gantry => (gantry.motorsOff time).value) <| session.gantry? number
      else session.gantry? number :=
  join_serveAll time (session.bus.subscribers .motorsOff) session.gantries number

/-! ## Where a gantry comes from -/

/-- How a request makes the gantry that has a number after it: the request built the
gantry, was carried out by it, told it of the loss of power, or passed it by. -/
inductive Origin (session : Session α) (number : Nat) (after : Gantry α) : Request α → Prop where
  | built {machine : Machine α} {letters : String} {indices : List Nat}
      {queue : Option MotionQueue} (last : number = session.gantries.length)
      (succeeded : (Gantry.build session.toolhead machine number queue letters
        indices).value.1 = .ok after) :
      Origin session number after (.build machine letters indices queue)
  | operated {before : Gantry α} {operation : Operation α}
      (held : session.gantry? number = some before)
      (performed : (before.perform operation).value.2 = after) :
      Origin session number after (.operate number operation)
  | unpowered {before : Gantry α} {time : α} (held : session.gantry? number = some before)
      (forgotten : (before.motorsOff time).value = after) :
      Origin session number after (.motorsOff time)
  | passed {request : Request α} (held : session.gantry? number = some after)
      (elsewhere : ∀ operation, request ≠ .operate number operation)
      (untold : ∀ time, request = .motorsOff time → number ∉ session.bus.subscribers .motorsOff) :
      Origin session number after request

theorem origin_of_held {session : Session α} {request : Request α} {number : Nat}
    {after : Gantry α} (held : gantry? (session.perform request).value.2 number = some after) :
    Origin session number after request := by
  cases request with
  | build machine letters indices queue =>
    rw [gantry?_build] at held
    by_cases last : number = session.gantries.length
    · rw [if_pos last] at held
      subst last
      exact .built rfl (eq_ok_of_toOption held)
    · rw [if_neg last] at held
      exact .passed held nofun nofun
  | operate other operation =>
    rw [gantry?_operate] at held
    by_cases same : number = other
    · subst same
      rw [if_pos rfl] at held
      rcases Option.map_eq_some_iff.mp held with ⟨before, present, performed⟩
      exact .operated present performed
    · rw [if_neg same] at held
      refine Origin.passed held ?_ nofun
      rintro asked ⟨⟩
      exact same rfl
  | motorsOff time =>
    rw [gantry?_motorsOff] at held
    by_cases told : number ∈ session.bus.subscribers .motorsOff
    · rw [if_pos told] at held
      rcases Option.map_eq_some_iff.mp held with ⟨before, present, forgotten⟩
      exact .unpowered present forgotten
    · rw [if_neg told] at held
      exact .passed held nofun fun _ _ => told

theorem exists_gantry?_perform {session : Session α} {number : Nat} {before : Gantry α}
    (held : session.gantry? number = some before) (request : Request α) :
    ∃ after, gantry? (session.perform request).value.2 number = some after ∧
      before.SameRails after := by
  cases request with
  | build machine letters indices queue =>
    have notLast : number ≠ session.gantries.length := by
      intro last
      rw [last, gantry?_length] at held
      cases held
    rw [gantry?_build, if_neg notLast]
    exact ⟨before, held, Gantry.SameRails.refl before⟩
  | operate other operation =>
    rw [gantry?_operate, held]
    split
    · exact ⟨_, rfl, before.sameRails_perform operation⟩
    · exact ⟨before, rfl, Gantry.SameRails.refl before⟩
  | motorsOff time =>
    rw [gantry?_motorsOff, held]
    split
    · exact ⟨_, rfl, before.sameRails_withLimits _⟩
    · exact ⟨before, rfl, Gantry.SameRails.refl before⟩

/-- A gantry that was built keeps its axes and rails over every run. -/
theorem exists_gantry?_run {session : Session α} {number : Nat} {before : Gantry α}
    (held : session.gantry? number = some before) (requests : List (Request α)) :
    ∃ after, gantry? (session.run requests) number = some after ∧ before.SameRails after := by
  induction requests generalizing session before with
  | nil => exact ⟨before, held, Gantry.SameRails.refl before⟩
  | cons request rest inductionHypothesis =>
    rcases exists_gantry?_perform held request with ⟨middle, present, early⟩
    rcases inductionHypothesis present with ⟨after, presentAfter, late⟩
    exact ⟨after, presentAfter, early.trans late⟩

theorem gantry?_eq_none_of_perform {session : Session α} {request : Request α} {number : Nat}
    (absent : gantry? (session.perform request).value.2 number = none) :
    session.gantry? number = none := by
  cases held : session.gantry? number with
  | none => rfl
  | some before =>
    rcases exists_gantry?_perform held request with ⟨after, present, -⟩
    rw [present] at absent
    cases absent

theorem run_append (session : Session α) (earlier later : List (Request α)) :
    session.run (earlier ++ later) = (session.run earlier).run later :=
  List.foldl_append

/-- What building establishes, and what neither an operation nor the loss of power
takes away, holds of every gantry of every session. -/
theorem forall_gantry?_run {property : Gantry α → Prop}
    (built : ∀ toolhead machine number queue letters indices gantry,
      (Gantry.build toolhead machine number queue letters indices).value.1 = .ok gantry →
        property gantry)
    (kept : ∀ gantry operation, property gantry → property (gantry.perform operation).value.2)
    (unpowered : ∀ gantry time, property gantry → property (gantry.motorsOff time).value)
    {toolhead : Toolhead α} {requests : List (Request α)} {number : Nat} {gantry : Gantry α}
    (held : gantry? ((start toolhead).run requests) number = some gantry) : property gantry := by
  induction requests using List.reverseRecOn generalizing gantry with
  | nil => simp [run, start, gantry?] at held
  | append_singleton earlier request inductionHypothesis =>
    rw [run_append] at held
    cases origin_of_held held with
    | built last succeeded => exact built _ _ _ _ _ _ gantry succeeded
    | operated was performed =>
      rw [← performed]
      exact kept _ _ (inductionHypothesis was)
    | unpowered was forgotten =>
      rw [← forgotten]
      exact unpowered _ _ (inductionHypothesis was)
    | passed was elsewhere untold => exact inductionHypothesis was

/-! ## Touches -/

/-- A number without a gantry has no slot that is homed. -/
theorem touch?_ne_homed_of_absent {session : Session α} {number : Nat}
    (absent : session.gantry? number = none) (request : Request α) (slot : Slot) (index : Nat) :
    request.touch? number slot index (session.perform request).value.1 ≠ some .homed := by
  intro homed
  cases request with
  | build machine letters indices queue => cases homed
  | operate other operation =>
    rw [value_operate] at homed
    by_cases same : number = other
    · subst same
      simp only [absent, Request.touch?, if_true] at homed
      cases operation <;> cases homed
    · simp [Request.touch?, same] at homed
  | motorsOff time => cases homed

theorem isDummy_of_touch? {session : Session α} {number : Nat} {gantry : Gantry α}
    (held : session.gantry? number = some gantry) {request : Request α} {slot : Slot}
    (homed : request.touch? number slot (gantry.axisSet.globalIndex slot)
      (session.perform request).value.1 = some .homed) :
    gantry.axisSet.isDummy slot = false := by
  cases request with
  | build machine letters indices queue => cases homed
  | operate other operation =>
    rw [value_operate] at homed
    by_cases same : number = other
    · subst same
      simp only [held, Request.touch?, if_true] at homed
      exact gantry.isDummy_of_touch? homed
    · simp [Request.touch?, same] at homed
  | motorsOff time => cases homed

/-! ## Subscriptions -/

theorem subscribers_build (session : Session α) (machine : Machine α) (letters : String)
    (indices : List Nat) (queue : Option MotionQueue) :
    (session.perform (.build machine letters indices queue)).value.2.bus.subscribers .motorsOff =
      match (Gantry.build session.toolhead machine session.gantries.length queue letters
          indices).value.1 with
      | .error _ => session.bus.subscribers .motorsOff
      | .ok _ => session.bus.subscribers .motorsOff ++ [session.gantries.length] := by
  rw [value_build]
  dsimp only
  cases (Gantry.build session.toolhead machine session.gantries.length queue letters
    indices).value.1 with
  | error fault => rfl
  | ok gantry => exact EventBus.subscribers_subscribe _ _ _

theorem bus_operate (session : Session α) (other : Nat) (operation : Operation α) :
    (session.perform (.operate other operation)).value.2.bus = session.bus := by
  rw [value_operate]
  cases session.gantry? other <;> rfl

/-! ## Sound sessions -/

/-- The loss of power reaches exactly the gantries that were built, and each of
them is sound. -/
structure Sound (session : Session α) : Prop where
  subscribed : ∀ number,
    number ∈ session.bus.subscribers .motorsOff ↔
      ∃ gantry, session.gantry? number = some gantry
  gantries : ∀ number gantry, session.gantry? number = some gantry → gantry.Sound

theorem sound_start (toolhead : Toolhead α) : (start toolhead).Sound where
  subscribed := by
    intro number
    simp [start, gantry?]
  gantries := by
    intro number gantry held
    simp [start, gantry?] at held

/-- How the gantry of a number came out of a request: the request built it, or
it was there before and the request touched its limits. -/
theorem gantry?_cases {session : Session α} (sound : session.Sound) {request : Request α}
    (indirect : request.isDirectWrite = false) {number : Nat} {after : Gantry α}
    (held : gantry? (session.perform request).value.2 number = some after) :
    (∃ machine letters indices queue, request = .build machine letters indices queue ∧
      session.gantry? number = none ∧
      (Gantry.build session.toolhead machine number queue letters indices).value.1 =
        .ok after) ∨
    ∃ before, session.gantry? number = some before ∧ before.SameRails after ∧
      ∀ slot, after.limits.get slot = before.touched slot
        (request.touch? number slot (before.axisSet.globalIndex slot)
          (session.perform request).value.1) := by
  cases origin_of_held held with
  | built last succeeded =>
    subst last
    exact Or.inl ⟨_, _, _, _, rfl, session.gantry?_length, succeeded⟩
  | operated present performed =>
    rename_i before operation
    subst performed
    refine Or.inr ⟨before, present, before.sameRails_perform operation, fun slot => ?_⟩
    rw [before.limits_perform operation indirect slot, value_operate, present]
    simp [Request.touch?]
  | unpowered present forgotten =>
    subst forgotten
    exact Or.inr ⟨_, present, Gantry.sameRails_withLimits _ _, Gantry.limits_motorsOff _ _⟩
  | passed present elsewhere untold =>
    refine Or.inr ⟨after, present, Gantry.SameRails.refl after, fun slot => ?_⟩
    cases request with
    | build machine letters indices queue => rfl
    | operate other operation =>
      have apart : number ≠ other := by
        rintro rfl
        exact elsewhere operation rfl
      simp [Request.touch?, apart, Gantry.touched]
    | motorsOff time =>
      have told := (sound.subscribed number).mpr ⟨after, present⟩
      exact absurd told (untold time rfl)

theorem subscribed_perform {session : Session α} (sound : session.Sound) (request : Request α)
    (number : Nat) :
    number ∈ (session.perform request).value.2.bus.subscribers .motorsOff ↔
      ∃ gantry, gantry? (session.perform request).value.2 number = some gantry := by
  cases request with
  | build machine letters indices queue =>
    rw [gantry?_build, subscribers_build]
    cases (Gantry.build session.toolhead machine session.gantries.length queue letters
        indices).value.1 with
    | error fault =>
      by_cases last : number = session.gantries.length
      · subst last
        simp [sound.subscribed, gantry?_length, Except.toOption]
      · simp [sound.subscribed, last]
    | ok gantry =>
      by_cases last : number = session.gantries.length
      · simp [last, Except.toOption]
      · simp [sound.subscribed, last]
  | operate other operation =>
    rw [gantry?_operate, bus_operate, sound.subscribed]
    split <;> simp only [← Option.isSome_iff_exists, Option.isSome_map]
  | motorsOff time =>
    rw [gantry?_motorsOff]
    refine (sound.subscribed number).trans ?_
    split <;> simp only [← Option.isSome_iff_exists, Option.isSome_map]

theorem Sound.perform {session : Session α} (sound : session.Sound) {request : Request α}
    (indirect : request.isDirectWrite = false) : (session.perform request).value.2.Sound where
  subscribed := subscribed_perform sound request
  gantries := by
    intro number after held
    rcases gantry?_cases sound indirect held with
      ⟨machine, letters, indices, queue, -, -, built⟩ | ⟨before, present, same, limits⟩
    · exact Gantry.sound_of_build built
    · exact (sound.gantries number before present).of_touched same _ limits

/-- Every session that is reached without direct writes is sound. -/
theorem Sound.run {session : Session α} (sound : session.Sound) (requests : List (Request α))
    (indirect : ∀ request ∈ requests, request.isDirectWrite = false) :
    (session.run requests).Sound := by
  induction requests generalizing session with
  | nil => exact sound
  | cons request rest inductionHypothesis =>
    rcases List.forall_mem_cons.mp indirect with ⟨first, later⟩
    exact inductionHypothesis (sound.perform first) later

end Session

end BeltGantry

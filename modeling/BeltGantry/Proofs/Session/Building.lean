import BeltGantry.Proofs.Axis.Grammar
import BeltGantry.Proofs.Gantry.Furnishing
import BeltGantry.Proofs.Session.History
import BeltGantry.Proofs.Session.Registration
namespace BeltGantry

/-!
# What builds leave in a session

A build that succeeds adds to the session and takes nothing away: a furnished
gantry under the next number, its steppers behind those that were registered
before, and one subscription to the loss of power.  A build that fails adds at
most steppers.  Handles carry the number of the gantry that they were made for,
also when it was not built, so the steppers of a new gantry are never among
those that were registered before.

Only builds subscribe, so the loss of power serves as many gantries as were
built, over any run; and all of these are unhomed by it.
-/

variable {α : Type}

/-- The number that the next build takes after a request. -/
def Request.nextNumber (next : Nat) : Request α → Nat
  | .build .. => next + 1
  | _ => next

/-- Whether an answer is a gantry that was built. -/
def Reply.isBuilt : Reply α → Bool
  | .built (.ok _) => true
  | _ => false

namespace Session

/-- The steppers that are registered were made for gantries of earlier numbers. -/
def Numbered (session : Session α) : Prop :=
  ∀ ref ∈ session.toolhead.registered,
    ref.handle.rail / tripletSize < session.gantries.length

/-- Which numbers are taken by a gantry. -/
def presence (gantries : List (Option (Gantry α))) : List Bool := gantries.map Option.isSome

theorem presence_set {gantries : List (Option (Gantry α))} {number : Nat} {before : Gantry α}
    (held : gantries[number]?.join = some before) (after : Gantry α) :
    presence (gantries.set number (some after)) = presence gantries := by
  have inside := lt_of_join_getElem? held
  have present : gantries[number].isSome = true := by
    rw [List.getElem?_eq_getElem inside] at held
    exact Option.isSome_of_eq_some held
  unfold presence
  rw [List.map_set]
  apply List.ext_getElem
  · simp
  · intro place _ _
    by_cases same : number = place
    · subst same
      simp [present]
    · simp [List.getElem_set_ne same]

/-- What a run adds to a session: as many subscriptions and as many gantries as builds
succeeded, and every gantry that it adds is subscribed. -/
structure Grown (session later : Session α) (count : Nat) : Prop where
  subscribers : ∃ numbers, later.bus.subscribers .motorsOff =
    session.bus.subscribers .motorsOff ++ numbers ∧ numbers.length = count
  presence : ∃ added, presence later.gantries = presence session.gantries ++ added ∧
    added.count true = count
  subscribed : ∀ number gantry, session.gantries.length ≤ number →
    later.gantry? number = some gantry → number ∈ later.bus.subscribers .motorsOff

theorem Grown.refl (session : Session α) : session.Grown session 0 where
  subscribers := ⟨[], (List.append_nil _).symm, rfl⟩
  presence := ⟨[], (List.append_nil _).symm, rfl⟩
  subscribed := by
    intro number gantry beyond held
    exact absurd (lt_of_join_getElem? held) (Nat.not_lt_of_le beyond)

variable [Scalar α]

/-! ## One request -/

theorem presence_serveAll (time : α) (told : List Nat) (gantries : List (Option (Gantry α))) :
    presence (EventBus.serveAll (serveMotorsOff time) told gantries).value =
      presence gantries := by
  induction told generalizing gantries with
  | nil => rfl
  | cons first rest inductionHypothesis =>
    simp only [EventBus.serveAll, Noted.value_bind]
    rw [inductionHypothesis]
    unfold serveMotorsOff
    cases held : gantries[first]?.join with
    | none => rfl
    | some gantry => exact presence_set held _

/-- The outcome of building the next gantry of a session. -/
abbrev nextBuild (session : Session α) (machine : Machine α) (letters : String)
    (indices : List Nat) (queue : Option MotionQueue) :
    Except (Fault α) (Gantry α) × Toolhead α :=
  (Gantry.build session.toolhead machine session.gantries.length queue letters indices).value

theorem isBuilt_build (session : Session α) (machine : Machine α) (letters : String)
    (indices : List Nat) (queue : Option MotionQueue) :
    (session.perform (.build machine letters indices queue)).value.1.isBuilt =
      (session.nextBuild machine letters indices queue).1.isOk := by
  rw [value_build]
  dsimp only
  cases (session.nextBuild machine letters indices queue).1 <;> rfl

theorem gantries_build (session : Session α) (machine : Machine α) (letters : String)
    (indices : List Nat) (queue : Option MotionQueue) :
    (session.perform (.build machine letters indices queue)).value.2.gantries =
      session.gantries ++ [(session.nextBuild machine letters indices queue).1.toOption] := by
  rw [value_build]

theorem toolhead_build (session : Session α) (machine : Machine α) (letters : String)
    (indices : List Nat) (queue : Option MotionQueue) :
    (session.perform (.build machine letters indices queue)).value.2.toolhead =
      (session.nextBuild machine letters indices queue).2 := by
  rw [value_build]

theorem isBuilt_perform (gantry : Gantry α) (operation : Operation α) :
    (gantry.perform operation).value.1.isBuilt = false := by
  cases operation <;> rfl

theorem isBuilt_operate (session : Session α) (other : Nat) (operation : Operation α) :
    (session.perform (.operate other operation)).value.1.isBuilt = false := by
  rw [value_operate]
  cases session.gantry? other with
  | none => rfl
  | some gantry => exact isBuilt_perform gantry operation

/-- A request takes a number exactly if it is a build that succeeds. -/
theorem presence_perform (session : Session α) (request : Request α) :
    ∃ added, presence (session.perform request).value.2.gantries =
        presence session.gantries ++ added ∧
      added.count true = if (session.perform request).value.1.isBuilt then 1 else 0 := by
  cases request with
  | build machine letters indices queue =>
    rw [isBuilt_build, gantries_build]
    cases (session.nextBuild machine letters indices queue).1 with
    | error fault => exact ⟨[false], by simp [presence, Except.toOption], rfl⟩
    | ok gantry => exact ⟨[true], by simp [presence, Except.toOption], rfl⟩
  | operate other operation =>
    rw [isBuilt_operate, value_operate]
    refine ⟨[], ?_, rfl⟩
    rw [List.append_nil]
    cases held : session.gantry? other with
    | none => rfl
    | some gantry => exact presence_set held _
  | motorsOff time =>
    refine ⟨[], ?_, rfl⟩
    rw [List.append_nil]
    exact presence_serveAll time _ _

theorem subscribers_perform (session : Session α) (request : Request α) :
    (session.perform request).value.2.bus.subscribers .motorsOff =
      session.bus.subscribers .motorsOff ++
        if (session.perform request).value.1.isBuilt then [session.gantries.length] else [] := by
  cases request with
  | build machine letters indices queue =>
    rw [subscribers_build, isBuilt_build]
    unfold nextBuild
    cases (Gantry.build session.toolhead machine session.gantries.length queue letters
        indices).value.1 with
    | error fault => exact (List.append_nil _).symm
    | ok gantry => rfl
  | operate other operation =>
    rw [bus_operate, isBuilt_operate]
    exact (List.append_nil _).symm
  | motorsOff time => exact (List.append_nil _).symm

theorem toolhead_operate (session : Session α) (other : Nat) (operation : Operation α) :
    (session.perform (.operate other operation)).value.2.toolhead = session.toolhead := by
  rw [value_operate]
  cases session.gantry? other <;> rfl

/-- A build takes a number whether it succeeds or not, and nothing else does. -/
theorem length_perform (session : Session α) (request : Request α) :
    (session.perform request).value.2.gantries.length =
      request.nextNumber session.gantries.length := by
  cases request with
  | build machine letters indices queue =>
    rw [gantries_build]
    exact List.length_append
  | operate other operation =>
    rw [value_operate]
    cases session.gantry? other with
    | none => rfl
    | some gantry => exact List.length_set
  | motorsOff time =>
    have kept := presence_serveAll time (session.bus.subscribers .motorsOff) session.gantries
    have lengths := congrArg List.length kept
    rwa [presence, presence, List.length_map, List.length_map] at lengths

theorem Numbered.perform {session : Session α} (numbered : session.Numbered)
    (request : Request α) : (session.perform request).value.2.Numbered := by
  intro ref listed
  rw [length_perform]
  cases request with
  | build machine letters indices queue =>
    rw [toolhead_build] at listed
    change ref.handle.rail / tripletSize < session.gantries.length + 1
    rcases Gantry.register_of_build session.toolhead machine session.gantries.length queue
      letters indices with same | ⟨gantry, furnished, registered⟩
    · rw [same] at listed
      have earlier := numbered ref listed
      omega
    · rw [registered] at listed
      rcases List.mem_append.mp listed with before | added
      · have earlier := numbered ref before
        omega
      · have own := furnished.numbered added
        omega
  | operate other operation =>
    rw [toolhead_operate] at listed
    exact numbered ref listed
  | motorsOff time => exact numbered ref listed

/-! ## Runs -/

theorem Numbered.run {session : Session α} (numbered : session.Numbered)
    (requests : List (Request α)) : (session.run requests).Numbered := by
  induction requests generalizing session with
  | nil => exact numbered
  | cons request rest inductionHypothesis => exact inductionHypothesis (numbered.perform request)

theorem Grown.perform {session later : Session α} {count : Nat} (grown : session.Grown later count)
    (request : Request α) :
    session.Grown (later.perform request).value.2
      (count + if (later.perform request).value.1.isBuilt then 1 else 0) where
  subscribers := by
    rcases grown.subscribers with ⟨numbers, subscribed, counted⟩
    rw [subscribers_perform, subscribed, List.append_assoc]
    refine ⟨_, rfl, ?_⟩
    rw [List.length_append, counted]
    split <;> rfl
  presence := by
    rcases grown.presence with ⟨numbers, present, counted⟩
    rcases later.presence_perform request with ⟨added, longer, once⟩
    rw [longer, present, List.append_assoc]
    refine ⟨_, rfl, ?_⟩
    rw [List.count_append, counted, once]
  subscribed := by
    intro number gantry beyond held
    rw [subscribers_perform]
    apply List.mem_append.mpr
    cases origin_of_held held with
    | built last succeeded =>
      subst last
      right
      rw [isBuilt_build, nextBuild, succeeded]
      exact List.mem_singleton_self _
    | operated was performed => exact Or.inl (grown.subscribed number _ beyond was)
    | unpowered was forgotten => exact Or.inl (grown.subscribed number _ beyond was)
    | passed was elsewhere untold => exact Or.inl (grown.subscribed number _ beyond was)

theorem nextBuild_of_answer {session : Session α} {machine : Machine α} {letters : String}
    {indices : List Nat} {queue : Option MotionQueue} {gantry : Gantry α}
    (answered : (session.perform (.build machine letters indices queue)).value.1 =
      .built (.ok gantry)) :
    (session.nextBuild machine letters indices queue).1 = .ok gantry := by
  rw [value_build] at answered
  exact Reply.built.inj answered

/-- Steppers of a new gantry are none of those that were registered before. -/
theorem Numbered.disjoint {session : Session α} (numbered : session.Numbered) {gantry : Gantry α}
    {machine : Machine α} (furnished : gantry.Furnished machine session.gantries.length) :
    List.Disjoint (session.toolhead.registered.map StepperRef.handle)
      (gantry.refs.map StepperRef.handle) := by
  intro handle old new
  rcases List.mem_map.mp old with ⟨ref, oldListed, rfl⟩
  rcases List.mem_map.mp new with ⟨other, newListed, same⟩
  have earlier := numbered ref oldListed
  have own := furnished.numbered newListed
  rw [same] at own
  exact absurd own (Nat.ne_of_lt earlier)

/-! ## Loss of power after a run -/

/-- Every gantry that a run added is subscribed, so the loss of power unhomes it. -/
theorem Grown.limits_motorsOff {session later : Session α} {count : Nat}
    (grown : session.Grown later count) (time : α) {number : Nat} {gantry : Gantry α}
    (beyond : session.gantries.length ≤ number)
    (held : gantry? (later.perform (.motorsOff time)).value.2 number = some gantry) :
    gantry.limits = Limits.unhomed := by
  cases origin_of_held held with
  | unpowered was forgotten =>
    rw [← forgotten]
    rfl
  | passed was elsewhere untold =>
    exact absurd (grown.subscribed number gantry beyond was) (untold time rfl)

/-- A session with two gantries of the same axes and a build between them that fails
after its steppers were registered. -/
def workshop : List (Request Float) :=
  [.build .benchtop "XYZ" [0, 1, 2] none, .build .stalled "XYZ" [0, 1, 2] none,
    .operate 0 (.setPosition ⟨10.0, 20.0, 5.0⟩ [2, 0]),
    .build .benchtop "YX" [1, 0] (some "shared")]

end Session

end BeltGantry

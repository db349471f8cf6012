import BeltGantry.Proofs.Gantry.Reordering
import BeltGantry.Proofs.Session.Building
namespace BeltGantry

/-!
# The order of configuration in a session

Whether a gantry can be built depends on the pairs of letters and numbers, but not on
their order nor on the case of the letters.  If it can, the order shows in the list of
its axes and in the name of a queue that was not given, and nowhere else: a session in
which it was built from one list and a session in which it was built from the other
are alike.  Alike sessions answer every request alike and stay alike.
-/

variable {α : Type}

/-! ## Related options -/

theorem Gantry.rel_alike_refl (hide : Rail α → Rail α) (held : Option (Gantry α)) :
    Option.Rel (Gantry.Alike hide) held held := by
  cases held with
  | none => exact .none
  | some gantry => exact .some (.refl hide gantry)

theorem rel_map {β γ : Type} {relation : β → β → Prop} {other : γ → γ → Prop} {rule : β → γ}
    {first second : Option β} (related : Option.Rel relation first second)
    (kept : ∀ a b, relation a b → other (rule a) (rule b)) :
    Option.Rel other (first.map rule) (second.map rule) := by
  cases related with
  | none => exact .none
  | some holds => exact .some (kept _ _ holds)

theorem rel_mono {β γ : Type} {relation other : β → γ → Prop} {first : Option β}
    {second : Option γ} (related : Option.Rel relation first second)
    (weaker : ∀ a b, relation a b → other a b) : Option.Rel other first second := by
  cases related with
  | none => exact .none
  | some holds => exact .some (weaker _ _ holds)

theorem exists_of_rel_some {β γ : Type} {relation : β → γ → Prop} {value : β}
    {second : Option γ} (related : Option.Rel relation (some value) second) :
    ∃ other, second = some other ∧ relation value other := by
  cases related with
  | some holds => exact ⟨_, rfl, holds⟩

theorem isOk_of_rel {ε β γ : Type} {relation : β → γ → Prop} {first : Except ε β}
    {second : Except ε γ} (related : Option.Rel relation first.toOption second.toOption) :
    second.isOk = first.isOk := by
  cases first <;> cases second <;> first | rfl | cases related

namespace Session

/-! ## Alike sessions -/

/-- The same toolhead and bus, with alike gantries under each number. -/
structure Alike (hide : Rail α → Rail α) (first second : Session α) : Prop where
  toolhead : second.toolhead = first.toolhead
  bus : second.bus = first.bus
  count : second.gantries.length = first.gantries.length
  gantry? : ∀ number,
    Option.Rel (Gantry.Alike hide) (first.gantry? number) (second.gantry? number)

variable {hide : Rail α → Rail α} {first second : Session α}

theorem Alike.refl (hide : Rail α → Rail α) (session : Session α) : session.Alike hide session where
  toolhead := rfl
  bus := rfl
  count := rfl
  gantry? := fun number => Gantry.rel_alike_refl hide (session.gantry? number)

variable [Scalar α]

/-! ## Requests -/

/-- Builds with alike outcomes leave alike sessions. -/
theorem Alike.build (alike : first.Alike hide second) {machine : Machine α}
    {letters otherLetters : String} {indices otherIndices : List Nat}
    {queue : Option MotionQueue}
    (outcomes : Option.Rel (Gantry.Alike hide)
      (first.nextBuild machine letters indices queue).1.toOption
      (second.nextBuild machine otherLetters otherIndices queue).1.toOption)
    (toolheads : (second.nextBuild machine otherLetters otherIndices queue).2 =
      (first.nextBuild machine letters indices queue).2) :
    (first.perform (.build machine letters indices queue)).value.2.Alike hide
      (second.perform (.build machine otherLetters otherIndices queue)).value.2 where
  toolhead := by
    rw [toolhead_build, toolhead_build, toolheads]
  bus := by
    rw [value_build, value_build]
    dsimp only
    rw [isOk_of_rel outcomes, alike.bus, alike.count]
  count := by
    rw [length_perform, length_perform, alike.count]
    rfl
  gantry? := by
    intro number
    rw [gantry?_build, gantry?_build, alike.count]
    have last := outcomes
    unfold nextBuild at last
    rw [alike.count] at last
    split
    · exact last
    · exact alike.gantry? number

/-- Alike sessions answer every request alike and stay alike. -/
theorem Alike.perform (alike : first.Alike hide second) (inert : Rail.Inert hide)
    (request : Request α) :
    (second.perform request).value.1 = (first.perform request).value.1 ∧
      (first.perform request).value.2.Alike hide (second.perform request).value.2 := by
  cases request with
  | build machine letters indices queue =>
    have sameBuild : second.nextBuild machine letters indices queue =
        first.nextBuild machine letters indices queue := by
      unfold nextBuild
      rw [alike.toolhead, alike.count]
    constructor
    · rw [value_build, value_build]
      exact congrArg (fun outcome => Reply.built outcome.1) sameBuild
    · apply alike.build
      · rw [sameBuild]
        exact Gantry.rel_alike_refl hide _
      · rw [sameBuild]
  | operate other operation =>
    refine ⟨?_, ?_, ?_, ?_, fun number => ?_⟩
    · have held := alike.gantry? other
      rw [value_operate, value_operate]
      generalize first.gantry? other = before, second.gantry? other = beforeSecond at held
      cases held with
      | none => rfl
      | some likewise => exact (likewise.perform inert operation).1
    · rw [toolhead_operate, toolhead_operate, alike.toolhead]
    · rw [bus_operate, bus_operate, alike.bus]
    · rw [length_perform, length_perform, alike.count]
    · rw [gantry?_operate, gantry?_operate]
      split
      · exact rel_map (alike.gantry? number) fun _ _ likewise =>
          (likewise.perform inert operation).2
      · exact alike.gantry? number
  | motorsOff time =>
    refine ⟨?_, alike.toolhead, alike.bus, ?_, fun number => ?_⟩
    · change Reply.served (second.bus.subscribers .motorsOff).length = _
      rw [alike.bus]
      rfl
    · rw [length_perform, length_perform, alike.count]
    · rw [gantry?_motorsOff, gantry?_motorsOff, alike.bus]
      split
      · exact rel_map (alike.gantry? number) fun _ _ likewise => likewise.motorsOff time
      · exact alike.gantry? number

theorem Alike.run (alike : first.Alike hide second) (inert : Rail.Inert hide)
    (requests : List (Request α)) :
    second.trace requests = first.trace requests ∧
      (first.run requests).Alike hide (second.run requests) := by
  induction requests generalizing first second with
  | nil => exact ⟨rfl, alike⟩
  | cons request rest inductionHypothesis =>
    rcases alike.perform inert request with ⟨answer, next⟩
    rcases inductionHypothesis next with ⟨answers, last⟩
    refine ⟨?_, last⟩
    unfold trace
    rw [answer, answers]

/-! ## One build from the same pairs -/

/-- Whatever the order in which pairs of letters and numbers are given, and whatever the
case of the letters, a build succeeds or fails, the toolhead gets the same steppers in
the same order, and the bus gets the same subscription.  What is built has the same
slots with the same rails and caps; it lists its axes differently and may have a queue
of another name, if none was given.  All later requests are answered alike, and homing
with any host goes alike that does not look at queues which were not given. -/
theorem build_reordered (session : Session α) (machine : Machine α) (queue : Option MotionQueue)
    {letters otherLetters : String} {indices otherIndices : List Nat}
    (same : SamePairs letters indices otherLetters otherIndices) :
    let first := (session.perform (.build machine letters indices queue)).value
    let second := (session.perform (.build machine otherLetters otherIndices queue)).value
    second.1.isBuilt = first.1.isBuilt ∧
    second.2.toolhead = first.2.toolhead ∧ second.2.bus = first.2.bus ∧
    (∀ gantry, first.1 = .built (.ok gantry) → ∃ twin, second.1 = .built (.ok twin) ∧
      twin.axisSet.triplet = gantry.axisSet.triplet ∧
      twin.axisSet.axisAt = gantry.axisSet.axisAt ∧
      twin.axisSet.dummyAxes = gantry.axisSet.dummyAxes ∧
      gantry.Reordered queue twin) ∧
    ∀ requests,
      second.2.trace requests = first.2.trace requests ∧
      ∀ number,
        let held := gantry? (first.2.run requests) number
        let heldOther := gantry? (second.2.run requests) number
        Option.Rel (Gantry.Alike (Rail.hidden queue)) held heldOther ∧
        ∀ (σ : Type) (host : HomingHost α σ) (state : σ),
          queue.isSome ∨ host.BlindTo Rail.detach →
          heldOther.map (·.home host state) = held.map (·.home host state) := by
  intro first second
  rcases Gantry.rel_build same session.toolhead machine session.gantries.length queue with
    ⟨outcomes, toolheads⟩
  have inert : Rail.Inert (Rail.hidden queue : Rail α → Rail α) := Rail.inert_hidden queue
  have alike : first.2.Alike (Rail.hidden queue) second.2 := by
    refine (Alike.refl _ session).build ?_ toolheads
    exact rel_mono outcomes fun _ _ reordered => reordered.toAlike
  refine ⟨?_, alike.toolhead, alike.bus, ?_, fun requests => ?_⟩
  · have built := session.isBuilt_build machine letters indices queue
    have builtOther := session.isBuilt_build machine otherLetters otherIndices queue
    exact (builtOther.trans (isOk_of_rel outcomes)).trans built.symm
  · intro gantry answered
    have built : (session.nextBuild machine letters indices queue).1 = .ok gantry :=
      nextBuild_of_answer answered
    unfold nextBuild at built
    rw [built] at outcomes
    rcases exists_of_rel_some outcomes with ⟨twin, builtOther, reordered⟩
    refine ⟨twin, ?_, reordered.layout.triplet, funext reordered.layout.axisAt,
      reordered.layout.dummyAxes, reordered⟩
    have answer := congrArg Prod.fst (session.value_build machine otherLetters otherIndices queue)
    exact answer.trans (congrArg Reply.built (eq_ok_of_toOption builtOther))
  · rcases alike.run inert requests with ⟨answers, last⟩
    refine ⟨answers, fun number => ⟨last.gantry? number, fun σ host state unseen => ?_⟩⟩
    have related := last.gantry? number
    generalize gantry? (first.2.run requests) number = held,
      gantry? (second.2.run requests) number = heldOther at related
    cases related with
    | none => rfl
    | some likewise =>
      exact congrArg some (likewise.home inert (host.blindTo_hidden unseen) state)

/-- The same three axes in another order and with other cases. -/
theorem build_reordered_benchtop :
    let first := ((start .benchtop).perform (.build .benchtop "XYZ" [0, 1, 2] none)).value
    let second := ((start .benchtop).perform (.build .benchtop "zXy" [2, 0, 1] none)).value
    let later : List (Request Float) :=
      [.operate 0 (.setPosition ⟨10.0, 20.0, 5.0⟩ [2, 0]), .operate 0 (.status 0.5)]
    SamePairs "XYZ" [0, 1, 2] "zXy" [2, 0, 1] ∧
    (∃ twin, first.1 = .built (.ok Gantry.benchtop) ∧ second.1 = .built (.ok twin) ∧
      Gantry.benchtop.Reordered none twin) ∧
    second.2.trace later = first.2.trace later := by
  intro first second later
  have same : SamePairs "XYZ" [0, 1, 2] "zXy" [2, 0, 1] :=
    .of_perm (by decide) (by decide) (by decide)
  rcases build_reordered (start .benchtop) .benchtop none same with ⟨-, -, -, twins, answers⟩
  have answered : first.1 = .built (.ok Gantry.benchtop) := by
    have answer := congrArg Prod.fst (value_build (start .benchtop) .benchtop "XYZ" [0, 1, 2] none)
    exact answer.trans (congrArg Reply.built build_benchtop)
  rcases twins _ answered with ⟨twin, built, -, -, -, reordered⟩
  exact ⟨same, ⟨twin, answered, built, reordered⟩, (answers later).1⟩

end Session

end BeltGantry

import BeltGantry.Proofs.Session.Homing
namespace BeltGantry

/-!
# All or nothing

An operation that lists axes resolves the whole list before it writes anything.  The
first axis that the gantry does not have is the answer, and then nothing at all has
happened: the session is the one before, and nothing was noted.  Otherwise the
operation succeeds.

What it writes depends on which axes are listed and on nothing else.  A slot that is
homed twice has the range of its rail as if it was homed once, and slots have no part
in each other's limits.  So lists with the same members are as good as the same list,
and axes that are forgotten one after the other are forgotten in any order.
-/

namespace Gantry

variable {α : Type}

/-! ## Axes that are refused -/

/-- Axes are refused for the first of them that is not configured. -/
theorem slotsOf_eq_error_iff (gantry : Gantry α) {axes : List Nat} {fault : Fault α} :
    gantry.slotsOf axes = .error fault ↔
      ∃ axis, axes.find? (· ∉ gantry.axisSet.indices) = some axis ∧
        fault = .homing (.unknownAxis axis) := by
  rw [slotsOf_eq_mapM]
  apply mapM_eq_report_iff
  intro axis fault
  rw [decide_eq_true_iff, ← gantry.axisSet.slotOf_eq_none_iff]
  unfold slotOf
  cases gantry.axisSet.slotOf axis <;> simp [eq_comm]

/-- Homing depends on which slots are listed, and neither on their order nor on repeats. -/
theorem value_homeSlots_congr (rails : Triplet (Option (Rail α))) {slots others : List Slot}
    (same : ∀ slot, slot ∈ others ↔ slot ∈ slots) (limits : Limits α) :
    (homeSlots rails others limits).value = (homeSlots rails slots limits).value := by
  ext slot
  simp only [get_homeSlots, same slot]

variable [Scalar α]

theorem setPosition_of_foreign (gantry : Gantry α) (position : Point α) {axes : List Nat}
    {axis : Nat} (first : axes.find? (· ∉ gantry.axisSet.indices) = some axis) :
    gantry.setPosition position axes = pure (.error (.homing (.unknownAxis axis)), gantry) := by
  unfold setPosition
  rw [gantry.slotsOf_eq_error_iff.mpr ⟨axis, first, rfl⟩]

theorem forgetAxis_of_foreign (gantry : Gantry α) {axis : Nat}
    (foreign : axis ∉ gantry.axisSet.indices) :
    gantry.forgetAxis axis = pure (.error (.homing (.unknownAxis axis)), gantry) := by
  unfold forgetAxis slotOf
  rw [gantry.axisSet.slotOf_eq_none_iff.mpr foreign]

/-! ## Axes that are accepted -/

omit [Scalar α] in
/-- A configured axis has a rail. -/
theorem Equipped.exists_rail {gantry : Gantry α} (equipped : gantry.Equipped) {slot : Slot}
    (configured : gantry.axisSet.globalIndex slot ∈ gantry.axisSet.indices) :
    ∃ rail, gantry.rails.get slot = some rail := by
  exact (exists_rail_iff_of_fitted (equipped.fitted slot)).mpr
    (gantry.axisSet.globalIndex_mem_indices_iff.mp configured)

/-- Setting a coordinate with configured axes gives each of their slots the range of its
rail, and no other slot a new limit. -/
theorem Equipped.homes_of_known {gantry : Gantry α} (equipped : gantry.Equipped)
    (position : Point α) {axes : List Nat} (known : ∀ axis ∈ axes, axis ∈ gantry.axisSet.indices) :
    let outcome := (gantry.setPosition position axes).value
    outcome.1 = .ok () ∧ outcome.2.position = position ∧
      outcome.2.rails = gantry.rails.map (Option.map (·.moveTo position)) ∧
      ∀ slot,
        (gantry.axisSet.globalIndex slot ∈ axes → ∃ rail, gantry.rails.get slot = some rail ∧
          outcome.2.limits.get slot = ⟨rail.positionMin, rail.positionMax⟩) ∧
        (gantry.axisSet.globalIndex slot ∉ axes →
          outcome.2.limits.get slot = gantry.limits.get slot) := by
  intro outcome
  have resolves : ∀ axis ∈ axes, gantry.axisSet.slotOf axis ≠ none := fun axis listed =>
    gantry.axisSet.slotOf_ne_none (known axis listed)
  rcases gantry.setPosition_of_knows position resolves with ⟨succeeded, pushed, moved, limits⟩
  refine ⟨succeeded, pushed, moved, fun slot => ⟨?_, ?_⟩⟩
  · intro listed
    rcases equipped.exists_rail (known _ listed) with ⟨rail, held⟩
    refine ⟨rail, held, ?_⟩
    rw [limits slot, if_pos listed, touched_homed (railRange?_of_held held)]
    rfl
  · intro unlisted
    rw [limits slot, if_neg unlisted]
    rfl

/-- Setting a coordinate depends on which axes are listed, and neither on their order nor
on repeats. -/
theorem value_setPosition_congr (gantry : Gantry α) (position : Point α) {axes others : List Nat}
    (known : ∀ axis ∈ axes, axis ∈ gantry.axisSet.indices)
    (same : ∀ axis, axis ∈ others ↔ axis ∈ axes) :
    (gantry.setPosition position others).value = (gantry.setPosition position axes).value := by
  have resolves {listed : List Nat} (knownListed : ∀ axis ∈ listed, axis ∈ gantry.axisSet.indices) :
      ∃ slots, gantry.slotsOf listed = .ok slots :=
    exists_slotsOf fun axis among => gantry.axisSet.slotOf_ne_none (knownListed axis among)
  rcases resolves known with ⟨slots, resolved⟩
  rcases resolves fun axis among => known axis ((same axis).mp among) with
    ⟨otherSlots, otherResolved⟩
  have sameSlots (slot : Slot) : slot ∈ otherSlots ↔ slot ∈ slots := by
    rw [gantry.mem_slotsOf_iff otherResolved, gantry.mem_slotsOf_iff resolved, same]
  rw [value_setPosition, value_setPosition, resolved, otherResolved]
  dsimp only
  rw [value_homeSlots_congr gantry.rails sameSlots]

/-- Forgetting a configured axis takes back the limit of its slot. -/
theorem exists_slot_of_forgetAxis (gantry : Gantry α) {axis : Nat}
    (configured : axis ∈ gantry.axisSet.indices) :
    ∃ slot, gantry.axisSet.globalIndex slot = axis ∧ (gantry.forgetAxis axis).value =
      (.ok (), { gantry with limits := gantry.limits.set slot Limit.unhomed }) := by
  rcases Option.ne_none_iff_exists'.mp (gantry.axisSet.slotOf_ne_none configured) with
    ⟨slot, found⟩
  refine ⟨slot, (gantry.axisSet.answers_of_slotOf found).2, ?_⟩
  rw [value_forgetAxis, found]
  rfl

/-- How a slot is touched when some axes are forgotten: those that are not configured
touch nothing. -/
def forgetTouch? (gantry : Gantry α) (axes : List Nat) (slot : Slot) : Option Touch :=
  if gantry.axisSet.globalIndex slot ∈ gantry.axisSet.indices ∧
      gantry.axisSet.globalIndex slot ∈ axes then some .forgotten
  else none

/-- The gantry with the limits of the configured ones among some axes taken back. -/
def forgetting (gantry : Gantry α) (axes : List Nat) : Gantry α :=
  { gantry with
    limits := Triplet.ofSlots fun slot => gantry.touched slot (gantry.forgetTouch? axes slot) }

/-- Only limits tell a gantry from what it is after axes are forgotten. -/
theorem eq_forgetting {gantry after : Gantry α} {axes : List Nat}
    (others : after = { gantry with limits := after.limits })
    (limits : ∀ slot, after.limits.get slot =
      gantry.touched slot (gantry.forgetTouch? axes slot)) : after = gantry.forgetting axes := by
  have forgotten : after.limits = (gantry.forgetting axes).limits := by
    ext slot
    rw [limits, forgetting, Triplet.get_ofSlots]
  rw [others, forgotten]
  rfl

theorem forgetting_nil (gantry : Gantry α) : gantry.forgetting [] = gantry :=
  (eq_forgetting rfl fun slot => by simp [forgetTouch?, touched]).symm

theorem forgetting_congr (gantry : Gantry α) {axes others : List Nat}
    (same : ∀ axis, axis ∈ others ↔ axis ∈ axes) :
    gantry.forgetting others = gantry.forgetting axes := by
  unfold forgetting forgetTouch?
  simp only [same]

/-- Axes that are forgotten after others join them. -/
theorem forgetting_forgetting (gantry : Gantry α) (earlier later : List Nat) :
    (gantry.forgetting earlier).forgetting later = gantry.forgetting (earlier ++ later) := by
  refine eq_forgetting rfl fun slot => ?_
  by_cases configured : gantry.axisSet.globalIndex slot ∈ gantry.axisSet.indices
  · by_cases forgotten : gantry.axisSet.globalIndex slot ∈ later
    · simp [forgetting, forgetTouch?, touched, configured, forgotten]
    · simp [forgetting, forgetTouch?, touched, configured, forgotten]
  · simp [forgetting, forgetTouch?, touched, configured]

/-- Forgetting an axis takes back its limit if it is configured, and does nothing
otherwise. -/
theorem after_forgetAxis (gantry : Gantry α) (axis : Nat) :
    (gantry.forgetAxis axis).value.2 = gantry.forgetting [axis] := by
  by_cases configured : axis ∈ gantry.axisSet.indices
  · rcases gantry.exists_slot_of_forgetAxis configured with ⟨slot, sameIndex, forgotten⟩
    rw [forgotten]
    refine eq_forgetting rfl fun other => ?_
    by_cases same : other = slot
    · subst same
      simp [forgetTouch?, touched, sameIndex, configured]
    · have apart : gantry.axisSet.globalIndex other ≠ axis := fun otherIndex =>
        same (gantry.axisSet.globalIndex_injective (otherIndex.trans sameIndex.symm))
      simp [forgetTouch?, touched, apart, Triplet.get_set_of_ne _ _ same]
  · rw [forgetAxis_of_foreign gantry configured]
    refine eq_forgetting rfl fun slot => ?_
    by_cases same : gantry.axisSet.globalIndex slot = axis
    · simp [forgetTouch?, touched, same, configured]
    · simp [forgetTouch?, touched, same]

end Gantry

namespace Session

variable {α : Type}

/-- The session with another gantry under a number. -/
def withGantry (session : Session α) (number : Nat) (gantry : Gantry α) : Session α :=
  { session with gantries := session.gantries.set number (some gantry) }

theorem withGantry_self {session : Session α} {number : Nat} {gantry : Gantry α}
    (held : session.gantry? number = some gantry) : session.withGantry number gantry = session := by
  have present : session.gantries[number]? = some (some gantry) := Option.join_eq_some_iff.mp held
  rcases List.getElem?_eq_some_iff.mp present with ⟨inRange, same⟩
  have unchanged : session.gantries.set number (some gantry) = session.gantries := by
    rw [← same]
    exact List.set_getElem_self inRange
  exact congrArg (fun gantries => { session with gantries := gantries }) unchanged

theorem withGantry_withGantry (session : Session α) (number : Nat) (first second : Gantry α) :
    (session.withGantry number first).withGantry number second =
      session.withGantry number second :=
  congrArg (fun gantries => { session with gantries := gantries }) (List.set_set _)

theorem gantry?_withGantry {session : Session α} {number : Nat} {before : Gantry α}
    (held : session.gantry? number = some before) (after : Gantry α) :
    gantry? (session.withGantry number after) number = some after :=
  (join_getElem?_set held after number).trans (if_pos rfl)

variable [Scalar α]

theorem value_operate_of_held {session : Session α} {number : Nat} {gantry : Gantry α}
    (held : session.gantry? number = some gantry) (operation : Operation α) :
    (session.perform (.operate number operation)).value =
      ((gantry.perform operation).value.1,
        session.withGantry number (gantry.perform operation).value.2) := by
  rw [value_operate, held]
  rfl

/-- What a gantry refuses without effect has no effect on the session. -/
theorem operate_of_refused {session : Session α} {number : Nat} {gantry : Gantry α}
    (held : session.gantry? number = some gantry) {operation : Operation α} {reply : Reply α}
    (refused : gantry.perform operation = pure (reply, gantry)) :
    session.perform (.operate number operation) = pure (reply, session) := by
  have unchanged := withGantry_self held
  simp only [perform, held, refused, pure_bind]
  exact congrArg (fun after => pure (reply, after)) unchanged

/-- Axes that are forgotten one after the other. -/
theorem run_forgetAxis {session : Session α} {number : Nat} {gantry : Gantry α}
    (held : session.gantry? number = some gantry) (axes : List Nat) :
    session.run (axes.map fun axis => .operate number (.forgetAxis axis)) =
      session.withGantry number (gantry.forgetting axes) := by
  induction axes generalizing session gantry with
  | nil =>
    rw [Gantry.forgetting_nil, withGantry_self held]
    rfl
  | cons axis rest inductionHypothesis =>
    have next : (session.perform (.operate number (.forgetAxis axis))).value.2 =
        session.withGantry number (gantry.forgetting [axis]) := by
      rw [value_operate_of_held held, ← gantry.after_forgetAxis]
      rfl
    have later := inductionHypothesis (gantry?_withGantry held (gantry.forgetting [axis]))
    rw [withGantry_withGantry, Gantry.forgetting_forgetting] at later
    rw [List.map_cons]
    change run (session.perform _).value.2 _ = _
    rw [next]
    exact later

/-- An operation that lists axes happens wholly or not at all.  If one of them is not
configured, the first such axis is the answer, and the session is what it was with all
its gantries, rails, steppers, positions and limits.  Otherwise it succeeds, and the
order and the repeats of the list make no difference. -/
theorem listed_axes_atomic (toolhead : Toolhead α) (requests : List (Request α)) (number : Nat)
    (gantry : Gantry α) (held : gantry? ((start toolhead).run requests) number = some gantry) :
    let session := (start toolhead).run requests
    let set := gantry.axisSet
    (∀ position axes axis, axes.find? (· ∉ set.indices) = some axis →
      session.perform (.operate number (.setPosition position axes)) =
        ⟨(.done (.error (.homing (.unknownAxis axis))), session), []⟩) ∧
    (∀ axis, axis ∉ set.indices →
      session.perform (.operate number (.forgetAxis axis)) =
        ⟨(.done (.error (.homing (.unknownAxis axis))), session), []⟩) ∧
    (∀ position axes, (∀ axis ∈ axes, axis ∈ set.indices) →
      let outcome := (session.perform (.operate number (.setPosition position axes))).value
      outcome.1 = .done (.ok ()) ∧
      (∃ after, outcome.2 = session.withGantry number after ∧ after.position = position ∧
        after.rails = gantry.rails.map (Option.map (·.moveTo position)) ∧
        ∀ slot, (set.globalIndex slot ∈ axes → ∃ rail, gantry.rails.get slot = some rail ∧
            after.limits.get slot = ⟨rail.positionMin, rail.positionMax⟩) ∧
          (set.globalIndex slot ∉ axes → after.limits.get slot = gantry.limits.get slot)) ∧
      ∀ others, (∀ axis, axis ∈ others ↔ axis ∈ axes) →
        (session.perform (.operate number (.setPosition position others))).value = outcome) ∧
    (∀ axis ∈ set.indices, ∃ slot, set.globalIndex slot = axis ∧
      (session.perform (.operate number (.forgetAxis axis))).value =
        (.done (.ok ()), session.withGantry number
          { gantry with limits := gantry.limits.set slot ⟨1.0, -1.0⟩ })) ∧
    ∀ axes others : List Nat, (∀ axis, axis ∈ others ↔ axis ∈ axes) →
      session.run (others.map fun axis => .operate number (.forgetAxis axis)) =
        session.run (axes.map fun axis => .operate number (.forgetAxis axis)) := by
  intro session set
  refine ⟨?_, ?_, ?_, ?_, ?_⟩
  · intro position axes axis first
    apply operate_of_refused held
    simp only [Gantry.perform, gantry.setPosition_of_foreign position first, pure_bind]
  · intro axis foreign
    apply operate_of_refused held
    simp only [Gantry.perform, gantry.forgetAxis_of_foreign foreign, pure_bind]
  · intro position axes known outcome
    have performed (listed : List Nat) :
        (session.perform (.operate number (.setPosition position listed))).value =
          (.done (gantry.setPosition position listed).value.1,
            session.withGantry number (gantry.setPosition position listed).value.2) :=
      value_operate_of_held held (.setPosition position listed)
    rcases (equipped_run held).homes_of_known position known with
      ⟨succeeded, pushed, moved, limits⟩
    refine ⟨?_, ⟨_, congrArg Prod.snd (performed axes), pushed, moved, limits⟩, ?_⟩
    · exact (congrArg Prod.fst (performed axes)).trans (congrArg Reply.done succeeded)
    · intro others same
      rw [performed others, gantry.value_setPosition_congr position known same]
      exact (performed axes).symm
  · intro axis configured
    rcases gantry.exists_slot_of_forgetAxis configured with ⟨slot, sameIndex, forgotten⟩
    refine ⟨slot, sameIndex, ?_⟩
    rw [value_operate_of_held held]
    simp only [Gantry.perform, Noted.value_bind, Noted.value_pure, forgotten]
    rfl
  · intro axes others same
    rw [run_forgetAxis held, run_forgetAxis held, gantry.forgetting_congr same]

/-- A session on a gantry whose third slot is a dummy. -/
def settingPair : List (Request Float) :=
  [.build .benchtop "YX" [1, 0] none, .operate 0 (.setPosition ⟨10.0, 20.0, 5.0⟩ [1])]

theorem isSome_settingPair :
    (Session.gantry? ((start .benchtop).run settingPair) 0).isSome = true := by
  decide

theorem listed_axes_atomic_settingPair :
    (Session.gantry? ((start .benchtop).run settingPair) 0).isSome = true ∧
      let session := (start .benchtop).run settingPair
      let setting := fun axes => session.perform (.operate 0 (.setPosition ⟨1.0, 2.0, 3.0⟩ axes))
      setting [0, 2, 1, 7] = ⟨(.done (.error (.homing (.unknownAxis 2))), session), []⟩ ∧
      (setting [1, 0, 1]).value.1 = .done (.ok ()) ∧
      (setting [0, 1]).value = (setting [1, 0, 1]).value ∧
      session.perform (.operate 0 (.forgetAxis 7)) =
        ⟨(.done (.error (.homing (.unknownAxis 7))), session), []⟩ := by
  refine ⟨isSome_settingPair, ?_⟩
  have held := (Option.some_get isSome_settingPair).symm
  have indices : (Option.get _ isSome_settingPair).axisSet.indices = [1, 0] := by decide
  rcases listed_axes_atomic .benchtop settingPair 0 _ held with ⟨refused, unknown, accepted, -, -⟩
  rw [indices] at refused unknown accepted
  have outcome := accepted ⟨1.0, 2.0, 3.0⟩ [1, 0, 1] (by decide)
  exact ⟨refused _ [0, 2, 1, 7] 2 (by decide), outcome.1, outcome.2.2 [0, 1] (by simp [or_comm]),
    unknown 7 (by decide)⟩

end Session

end BeltGantry

import Mathlib.Data.List.Basic
import BeltGantry.Homing.Simulated
import BeltGantry.Proofs.Gantry.Construction
namespace BeltGantry

/-!
# The protocol of homing

The host that performs homing moves is known through its answers only, so what
the gantry does to it has to be said in terms of the calls that the host sees.
`HomingHost.watched` lists them: it answers as the host does and writes down
each call, those that fail included.

A request with an axis that has no rail, wherever in the request it stands,
comes to no call at all.  Otherwise the calls run through the requested axes in
their order, and `Homing.Ends` says why they stop: no axis is left, a call
failed, or the targets of the next axis cannot be laid out over the axes of the
machine.  The last of these depends on the number of axes alone and never on
the answers of the host.
-/

/-- A call to a host: the rails to move, and their targets. -/
structure HomingCall (α : Type) where
  rails : List (Rail α)
  move : HomingMove α

variable {α σ : Type}

namespace HomingHost

/-- The host with a list of the calls made to it, in order. -/
def watched (host : HomingHost α σ) : HomingHost α (σ × List (HomingCall α)) where
  wanted := fun state => host.wanted state.1
  homeRails := fun state rails move =>
    (fun answer => (answer.1, answer.2, state.2 ++ [⟨rails, move⟩])) <$>
      host.homeRails state.1 rails move

theorem wanted_watched (host : HomingHost α σ) (state : σ) (seen : List (HomingCall α)) :
    host.watched.wanted (state, seen) = host.wanted state := rfl

/-- The host grants calls one after the other, which leads from one state to another. -/
def Grants (host : HomingHost α σ) : σ → List (HomingCall α) → σ → Prop
  | before, [], after => after = before
  | before, call :: rest, after => ∃ middle,
      (host.homeRails before call.rails call.move).value = (.ok (), middle) ∧
        host.Grants middle rest after

theorem Grants.cons {host : HomingHost α σ} {before middle after : σ} {call : HomingCall α}
    {rest : List (HomingCall α)}
    (granted : (host.homeRails before call.rails call.move).value = (.ok (), middle))
    (later : host.Grants middle rest after) : host.Grants before (call :: rest) after :=
  ⟨middle, granted, later⟩

theorem grants_append_iff {host : HomingHost α σ} {before after : σ}
    {first second : List (HomingCall α)} :
    host.Grants before (first ++ second) after ↔
      ∃ middle, host.Grants before first middle ∧ host.Grants middle second after := by
  induction first generalizing before with
  | nil => simp [Grants]
  | cons call rest inductionHypothesis =>
    simp only [List.cons_append, Grants, inductionHypothesis]
    constructor
    · rintro ⟨next, granted, middle, early, late⟩
      exact ⟨middle, ⟨next, granted, early⟩, late⟩
    · rintro ⟨middle, ⟨next, granted, early⟩, late⟩
      exact ⟨next, granted, middle, early, late⟩

/-- Calls that are granted lead to one state only. -/
theorem Grants.unique {host : HomingHost α σ} {before after other : σ}
    {calls : List (HomingCall α)} (granted : host.Grants before calls after)
    (again : host.Grants before calls other) : after = other := by
  induction calls generalizing before with
  | nil => exact Eq.trans granted (Eq.symm again)
  | cons call rest inductionHypothesis =>
    rcases granted with ⟨middle, answered, later⟩
    rcases again with ⟨second, answeredAgain, laterAgain⟩
    have same := congrArg Prod.snd (answered.symm.trans answeredAgain)
    dsimp only at same
    subst same
    exact inductionHypothesis later laterAgain

end HomingHost

namespace Homing

/-- How a request ends after the given calls: all wanted axes are homed, the
last call failed, or the next wanted axis has no targets. -/
inductive Ends (host : HomingHost α σ) (axisCount : Nat) (before : σ) (wanted : List Nat)
    (calls : List (HomingCall α)) : Except HomingFault Unit × σ → Prop where
  | homed {after : σ} (complete : calls.map (·.move.axis) = wanted)
      (granted : host.Grants before calls after) :
      Ends host axisCount before wanted calls (.ok (), after)
  | refused {earlier : List (HomingCall α)} {last : HomingCall α} {middle after : σ}
      {fault : HomingFault} (made : calls = earlier ++ [last])
      (granted : host.Grants before earlier middle)
      (answer : (host.homeRails middle last.rails last.move).value = (.error fault, after)) :
      Ends host axisCount before wanted calls (.error fault, after)
  | untargeted {axis : Nat} {later : List Nat} {after : σ}
      (next : wanted = calls.map (·.move.axis) ++ axis :: later)
      (unlaid : ¬ (axis < axisCount ∧ axisCount < targetLimit))
      (granted : host.Grants before calls after) :
      Ends host axisCount before wanted calls (.error (.noTargets axis axisCount), after)

/-- A call that is granted comes before all others. -/
theorem Ends.cons {host : HomingHost α σ} {axisCount : Nat} {before middle : σ}
    {wanted : List Nat} {calls : List (HomingCall α)} {outcome : Except HomingFault Unit × σ}
    {call : HomingCall α}
    (granted : (host.homeRails before call.rails call.move).value = (.ok (), middle))
    (ends : Ends host axisCount middle wanted calls outcome) :
    Ends host axisCount before (call.move.axis :: wanted) (call :: calls) outcome := by
  cases ends with
  | homed complete later =>
    refine .homed ?_ (.cons granted later)
    rw [List.map_cons, complete]
  | refused made later answer =>
    refine .refused ?_ (.cons granted later) answer
    rw [made, List.cons_append]
  | untargeted next unlaid later =>
    refine .untargeted (congrArg (call.move.axis :: ·) next) unlaid (.cons granted later)

/-- After calls for all axes before one without targets, each of them granted, that axis is
the fault. -/
theorem Ends.eq_of_untargeted {host : HomingHost α σ} {axisCount : Nat} {before after : σ}
    {wanted later : List Nat} {axis : Nat} {calls : List (HomingCall α)}
    {outcome : Except HomingFault Unit × σ} (ends : Ends host axisCount before wanted calls outcome)
    (split : wanted = calls.map (·.move.axis) ++ axis :: later)
    (granted : host.Grants before calls after) :
    outcome = (.error (.noTargets axis axisCount), after) := by
  cases ends with
  | homed complete _ =>
    rw [complete] at split
    exact absurd (List.append_right_eq_self.mp split.symm) (List.cons_ne_nil axis later)
  | refused made early answer =>
    rw [made] at granted
    rcases HomingHost.grants_append_iff.mp granted with ⟨middle, again, last, answered, -⟩
    rw [early.unique again, answered] at answer
    cases answer
  | untargeted next _ early =>
    have same := List.append_cancel_left (next.symm.trans split)
    rw [(List.cons.inj same).1, early.unique granted]

/-- Calls for axes that have targets come to no axis without. -/
theorem prefix_of_laid (laid : Nat → Prop) {made earlier later : List Nat} {axis : Nat}
    (ordered : made <+: earlier ++ axis :: later) (allLaid : ∀ other ∈ made, laid other)
    (unlaid : ¬ laid axis) : made <+: earlier := by
  have unmade : ¬ earlier ++ [axis] <+: made := by
    intro reached
    have listed := reached.subset (List.mem_append_right earlier (List.mem_singleton_self axis))
    exact unlaid (allLaid axis listed)
  have upTo : earlier ++ [axis] <+: earlier ++ axis :: later :=
    (List.prefix_append_right_inj earlier).mpr ⟨later, rfl⟩
  rcases List.prefix_or_prefix_of_prefix ordered upTo with short | long
  · rcases List.prefix_concat_iff.mp short with same | before
    · exact absurd (same ▸ List.prefix_rfl) unmade
    · exact before
  · exact absurd long unmade

/-! ## The plan -/

theorem railOf?_eq_some_iff {set : AxisSet} {rails : Triplet (Option (Rail α))} {axis : Nat}
    {rail : Rail α} : railOf? set rails axis = some rail ↔
      ∃ slot, set.slotOf axis = some slot ∧ rails.get slot = some rail :=
  Option.bind_eq_some_iff

theorem slotOf_ne_none_of_railOf? {set : AxisSet} {rails : Triplet (Option (Rail α))}
    {axis : Nat} {rail : Rail α} (found : railOf? set rails axis = some rail) :
    set.slotOf axis ≠ none := by
  rcases railOf?_eq_some_iff.mp found with ⟨slot, atSlot, -⟩
  rw [atSlot]
  exact Option.some_ne_none slot

/-- A wanted axis with its rail. -/
def planStep (set : AxisSet) (rails : Triplet (Option (Rail α))) (axis : Nat) :
    Except HomingFault (Nat × Rail α) :=
  match railOf? set rails axis with
  | none => .error (.unknownAxis axis)
  | some rail => .ok (axis, rail)

theorem planStep_eq_ok_iff {set : AxisSet} {rails : Triplet (Option (Rail α))} {axis : Nat}
    {step : Nat × Rail α} : planStep set rails axis = .ok step ↔
      railOf? set rails step.1 = some step.2 ∧ step.1 = axis := by
  unfold planStep
  constructor
  · cases found : railOf? set rails axis with
    | none => nofun
    | some rail =>
      rintro ⟨⟩
      exact ⟨found, rfl⟩
  · rintro ⟨found, rfl⟩
    rw [found]

theorem plan_eq_mapM (set : AxisSet) (rails : Triplet (Option (Rail α))) (wanted : List Nat) :
    plan set rails wanted = wanted.mapM (planStep set rails) := by
  induction wanted with
  | nil => rfl
  | cons axis rest inductionHypothesis =>
    unfold plan
    cases found : railOf? set rails axis with
    | none =>
      have outcome : planStep set rails axis = .error (.unknownAxis axis) := by
        rw [planStep, found]
      rw [mapM_cons_of_error outcome]
    | some rail =>
      have outcome : planStep set rails axis = .ok (axis, rail) := by
        rw [planStep, found]
      rw [mapM_cons_of_ok outcome, inductionHypothesis]
      cases rest.mapM (planStep set rails) <;> rfl

/-- A plan goes through the wanted axes in order, each with its rail. -/
theorem bound_of_plan {set : AxisSet} {rails : Triplet (Option (Rail α))} {wanted : List Nat}
    {steps : List (Nat × Rail α)} (planned : plan set rails wanted = .ok steps) :
    steps.map Prod.fst = wanted ∧ ∀ step ∈ steps, railOf? set rails step.1 = some step.2 := by
  rw [plan_eq_mapM, mapM_eq_ok_iff] at planned
  simp only [planStep_eq_ok_iff] at planned
  have steady : List.Forall₂ (fun step axis => railOf? set rails step.1 = some step.2 ∧
      step.1 = axis) steps wanted := planned.flip
  rcases (List.forall₂_and_left steps wanted).mp steady with ⟨bound, axes⟩
  rw [← List.forall₂_map_left_iff, List.forall₂_eq_eq_eq] at axes
  exact ⟨axes, bound⟩

/-- A request whose axes all have rails has a plan. -/
theorem exists_plan {set : AxisSet} {rails : Triplet (Option (Rail α))} {wanted : List Nat}
    (known : ∀ axis ∈ wanted, railOf? set rails axis ≠ none) :
    ∃ steps, plan set rails wanted = .ok steps := by
  rw [plan_eq_mapM, exists_mapM_iff]
  intro axis listed
  rcases Option.ne_none_iff_exists'.mp (known axis listed) with ⟨rail, found⟩
  exact ⟨(axis, rail), planStep_eq_ok_iff.mpr ⟨found, rfl⟩⟩

/-- A request without a plan is refused for its first axis without a rail. -/
theorem plan_eq_error_iff {set : AxisSet} {rails : Triplet (Option (Rail α))}
    {wanted : List Nat} {fault : HomingFault} :
    plan set rails wanted = .error fault ↔
      ∃ axis, wanted.find? (fun axis => (railOf? set rails axis).isNone) = some axis ∧
        fault = .unknownAxis axis := by
  rw [plan_eq_mapM]
  apply mapM_eq_report_iff
  intro axis fault
  unfold planStep
  cases railOf? set rails axis <;> simp [eq_comm]

theorem plan_eq_error {set : AxisSet} {rails : Triplet (Option (Rail α))} {earlier : List Nat}
    {axis : Nat} (later : List Nat) (known : ∀ other ∈ earlier, railOf? set rails other ≠ none)
    (foreign : railOf? set rails axis = none) :
    plan set rails (earlier ++ axis :: later) = .error (.unknownAxis axis) := by
  refine plan_eq_error_iff.mpr ⟨axis, List.find?_eq_some_iff_append.mpr ?_, rfl⟩
  refine ⟨Option.isNone_iff_eq_none.mpr foreign, earlier, later, rfl, fun other listed => ?_⟩
  simpa [Option.isSome_iff_ne_none] using known other listed

/-- A request without a plan has an axis without a rail, which is its fault. -/
theorem exists_unknown_of_plan {set : AxisSet} {rails : Triplet (Option (Rail α))}
    {wanted : List Nat} {fault : HomingFault} (unplanned : plan set rails wanted = .error fault) :
    ∃ axis ∈ wanted, railOf? set rails axis = none ∧ fault = .unknownAxis axis := by
  rcases plan_eq_error_iff.mp unplanned with ⟨axis, first, reported⟩
  have foreign := List.find?_some first
  exact ⟨axis, List.mem_of_find?_eq_some first, Option.isNone_iff_eq_none.mp foreign, reported⟩

/-! ## Performing a plan -/

variable [Scalar α]

/-- The call that homes an axis with its rail. -/
def order (axisCount : Nat) (step : Nat × Rail α) : HomingCall α :=
  ⟨[step.2], .ofRail step.1 step.2 axisCount⟩

theorem value_perform_cons (host : HomingHost α σ) (axisCount axis : Nat) (rail : Rail α)
    (rest : List (Nat × Rail α)) (state : σ) :
    (perform host axisCount ((axis, rail) :: rest) state).value =
      if axis < axisCount ∧ axisCount < targetLimit then
        match (host.homeRails state [rail] (.ofRail axis rail axisCount)).value with
        | (.error fault, after) => (.error fault, after)
        | (.ok (), after) => (perform host axisCount rest after).value
      else (.error (.noTargets axis axisCount), state) := by
  rw [perform, HomingMove.ofRail?]
  by_cases laid : axis < axisCount ∧ axisCount < targetLimit
  · simp only [if_pos laid, Noted.value_bind]
    rcases (host.homeRails state [rail] (.ofRail axis rail axisCount)).value with ⟨_ | _, after⟩ <;>
      rfl
  · simp only [if_neg laid, Noted.value_pure]

/-- Where targets do not fit into memory, the first step ends the run. -/
theorem value_perform_of_unfit (host : HomingHost α σ) {axisCount : Nat}
    (unfit : ¬ axisCount < targetLimit) (step : Nat × Rail α) (rest : List (Nat × Rail α))
    (state : σ) :
    (perform host axisCount (step :: rest) state).value =
      (.error (.noTargets step.1 axisCount), state) := by
  rw [value_perform_cons, if_neg fun laid => unfit laid.2]

/-- Watching a host changes nothing for it, and the calls it sees are the first
steps of the plan, each for an axis that has targets. -/
theorem exists_calls_of_perform (host : HomingHost α σ) (axisCount : Nat)
    (steps : List (Nat × Rail α)) (state : σ) (seen : List (HomingCall α)) :
    ∃ calls,
      (perform host.watched axisCount steps (state, seen)).value =
        ((perform host axisCount steps state).value.1,
          (perform host axisCount steps state).value.2, seen ++ calls) ∧
      calls <+: steps.map (order axisCount) ∧
      (∀ call ∈ calls, call.move.axis < axisCount ∧ axisCount < targetLimit) ∧
      Ends host axisCount state (steps.map Prod.fst) calls
        (perform host axisCount steps state).value := by
  -- The calls of one step are written down after those of all steps before it.
  induction steps generalizing state seen with
  | nil => exact ⟨[], by simp [perform], List.prefix_rfl, nofun, .homed rfl rfl⟩
  | cons step rest inductionHypothesis =>
    obtain ⟨axis, rail⟩ := step
    rw [value_perform_cons, value_perform_cons, List.map_cons, List.map_cons]
    by_cases laid : axis < axisCount ∧ axisCount < targetLimit
    · rw [if_pos laid, if_pos laid]
      simp only [HomingHost.watched, Noted.value_map]
      rcases answer : (host.homeRails state [rail] (.ofRail axis rail axisCount)).value with
        ⟨_ | _, after⟩
      · rename_i fault
        have refused : Ends host axisCount state (axis :: rest.map Prod.fst)
            ([] ++ [order axisCount (axis, rail)]) (.error fault, after) :=
          .refused rfl rfl answer
        exact ⟨[order axisCount (axis, rail)], rfl, List.prefix_append [_] _,
          List.forall_mem_singleton.mpr laid, refused⟩
      · rcases inductionHypothesis after (seen ++ [order axisCount (axis, rail)]) with
          ⟨calls, seenAfter, steps, allLaid, ends⟩
        refine ⟨order axisCount (axis, rail) :: calls, ?_, (List.prefix_cons_inj _).mpr steps,
          List.forall_mem_cons.mpr ⟨laid, allLaid⟩, ?_⟩
        · rw [List.append_assoc] at seenAfter
          exact seenAfter
        · have granted : (host.homeRails state (order axisCount (axis, rail)).rails
              (order axisCount (axis, rail)).move).value = (.ok (), after) := answer
          exact ends.cons granted
    · rw [if_neg laid, if_neg laid]
      have next : axis :: rest.map Prod.fst =
          ([] : List (HomingCall α)).map (·.move.axis) ++ axis :: rest.map Prod.fst := rfl
      exact ⟨[], by simp, List.nil_prefix, nofun, .untargeted next laid rfl⟩

/-! ## Homing a request -/

/-- The calls that a host sees while its request is served. -/
def callsSeen (host : HomingHost α σ) (axisCount : Nat) (set : AxisSet)
    (rails : Triplet (Option (Rail α))) (state : σ) : List (HomingCall α) :=
  (homeInOrder host.watched axisCount set rails (state, [])).value.2.2

theorem value_homeInOrder (host : HomingHost α σ) (axisCount : Nat) (set : AxisSet)
    (rails : Triplet (Option (Rail α))) (state : σ) :
    (homeInOrder host axisCount set rails state).value =
      match plan set rails (host.wanted state) with
      | .error fault => (.error fault, state)
      | .ok steps => (perform host axisCount steps state).value := by
  unfold homeInOrder
  cases plan set rails (host.wanted state) <;> rfl

/-- A request without a plan ends where it began, and the host sees no call. -/
theorem ends_of_unplanned (host : HomingHost α σ) (axisCount : Nat) {set : AxisSet}
    {rails : Triplet (Option (Rail α))} {state : σ} {fault : HomingFault}
    (unplanned : plan set rails (host.wanted state) = .error fault) :
    (homeInOrder host axisCount set rails state).value = (.error fault, state) ∧
      (homeInOrder host.watched axisCount set rails (state, [])).value =
        (.error fault, state, []) := by
  simp only [value_homeInOrder, HomingHost.wanted_watched, unplanned, and_self]

theorem exists_calls_of_plan (host : HomingHost α σ) (axisCount : Nat) {set : AxisSet}
    {rails : Triplet (Option (Rail α))} {state : σ} {steps : List (Nat × Rail α)}
    (planned : plan set rails (host.wanted state) = .ok steps) :
    let outcome := (homeInOrder host axisCount set rails state).value
    ∃ calls,
      (homeInOrder host.watched axisCount set rails (state, [])).value =
        (outcome.1, outcome.2, calls) ∧
      calls <+: steps.map (order axisCount) ∧
      (∀ call ∈ calls, call.move.axis < axisCount ∧ axisCount < targetLimit) ∧
      Ends host axisCount state (host.wanted state) calls outcome := by
  have performed := exists_calls_of_perform host axisCount steps state []
  rw [(bound_of_plan planned).1] at performed
  simp only [value_homeInOrder, HomingHost.wanted_watched, planned]
  exact performed

/-- The protocol of homing.  Watching a host changes nothing for it.  If an axis
of the request has no rail, the first such axis is the fault and no call is made.
Otherwise the calls go through the wanted axes in order, each with the rail in
the slot of its axis and with the targets of that rail, until one of the three
ends is reached.  Every call is for an axis that has targets, so none comes to the
first axis that has not; when all axes before that one are homed, it is the fault. -/
theorem homeInOrder_protocol (host : HomingHost α σ) (axisCount : Nat) (set : AxisSet)
    (rails : Triplet (Option (Rail α))) (state : σ) :
    let wanted := host.wanted state
    let outcome := (homeInOrder host axisCount set rails state).value
    let calls := callsSeen host axisCount set rails state
    (homeInOrder host.watched axisCount set rails (state, [])).value =
      (outcome.1, outcome.2, calls) ∧
    (∀ earlier axis later, wanted = earlier ++ axis :: later →
      (∀ other ∈ earlier, railOf? set rails other ≠ none) → railOf? set rails axis = none →
        outcome = (.error (.unknownAxis axis), state) ∧ calls = []) ∧
    ((∀ axis ∈ wanted, railOf? set rails axis ≠ none) →
      calls.map (·.move.axis) <+: wanted ∧
      (∀ call ∈ calls, (call.move.axis < axisCount ∧ axisCount < targetLimit) ∧
        ∃ slot rail, set.slotOf call.move.axis = some slot ∧
          rails.get slot = some rail ∧ call.rails = [rail] ∧
          HomingMove.ofRail? call.move.axis rail axisCount = some call.move) ∧
      (∀ earlier axis later, wanted = earlier ++ axis :: later →
        ¬ (axis < axisCount ∧ axisCount < targetLimit) →
          calls.map (·.move.axis) <+: earlier ∧
          ∀ after, calls.map (·.move.axis) = earlier → host.Grants state calls after →
            outcome = (.error (.noTargets axis axisCount), after)) ∧
      Ends host axisCount state wanted calls outcome) := by
  intro wanted outcome calls
  refine ⟨?_, ?_, ?_⟩
  · cases planned : plan set rails wanted with
    | error fault =>
      rcases ends_of_unplanned host axisCount planned with ⟨ended, seen⟩
      simp only [calls, outcome, callsSeen, ended, seen]
    | ok steps =>
      rcases exists_calls_of_plan host axisCount planned with ⟨made, seen, -, -⟩
      simp only [calls, outcome, callsSeen, seen]
  · intro earlier axis later split known foreign
    have unplanned : plan set rails wanted = .error (.unknownAxis axis) := by
      rw [split]
      exact plan_eq_error later known foreign
    rcases ends_of_unplanned host axisCount unplanned with ⟨ended, seen⟩
    exact ⟨ended, congrArg (·.2.2) seen⟩
  · intro known
    rcases exists_plan known with ⟨steps, planned⟩
    rcases bound_of_plan planned with ⟨axes, bound⟩
    rcases exists_calls_of_plan host axisCount planned with ⟨made, seen, ordered, laid, ends⟩
    have same : calls = made := congrArg (·.2.2) seen
    rw [same]
    have axesOrdered : made.map (·.move.axis) <+: wanted := by
      have mapped := ordered.map (·.move.axis)
      rwa [List.map_map, show (·.move.axis) ∘ order axisCount = Prod.fst from rfl, axes]
        at mapped
    refine ⟨axesOrdered, fun call listed => ⟨laid call listed, ?_⟩, ?_, ends⟩
    · rcases List.mem_map.mp (ordered.subset listed) with ⟨step, planListed, rfl⟩
      rcases railOf?_eq_some_iff.mp (bound step planListed) with ⟨slot, atSlot, held⟩
      exact ⟨slot, step.2, atSlot, held, rfl, if_pos (laid _ listed)⟩
    · intro earlier axis later split unlaid
      refine ⟨?_, fun after complete granted => ?_⟩
      · rw [split] at axesOrdered
        exact prefix_of_laid (fun other => other < axisCount ∧ axisCount < targetLimit)
          axesOrdered (List.forall_mem_map.mpr laid) unlaid
      · rw [← complete] at split
        exact ends.eq_of_untargeted split granted

/-- A request in which the second of three axes fails: the last one is not called for.  And
one on a machine that has the first axis only, which ends behind that axis. -/
theorem homeInOrder_protocol_benchtop :
    let calls := callsSeen SimulatedHoming.host 3 Gantry.benchtop.axisSet Gantry.benchtop.rails
      ⟨[2, 0, 1], some 0, [], []⟩
    let narrow := (homeInOrder SimulatedHoming.host 1 Gantry.benchtop.axisSet Gantry.benchtop.rails
      ⟨[0, 2, 1], none, [], []⟩).value
    calls.map (·.move.axis) = [2, 0] ∧ calls.map (·.move.axis) <+: [2, 0, 1] ∧
      narrow.1 = .error (.noTargets 2 1) ∧ narrow.2.homedAxes = [0] := by
  intro calls narrow
  have protocol := homeInOrder_protocol SimulatedHoming.host 3 Gantry.benchtop.axisSet
    Gantry.benchtop.rails ⟨[2, 0, 1], some 0, [], []⟩
  rcases (homeInOrder_protocol SimulatedHoming.host 1 Gantry.benchtop.axisSet
    Gantry.benchtop.rails ⟨[0, 2, 1], none, [], []⟩).2.2 (by decide) with ⟨-, -, stops, -⟩
  have granted : SimulatedHoming.host.Grants ⟨[0, 2, 1], none, [], []⟩
      (callsSeen SimulatedHoming.host 1 Gantry.benchtop.axisSet Gantry.benchtop.rails
        ⟨[0, 2, 1], none, [], []⟩) narrow.2 :=
    ⟨_, rfl, rfl⟩
  have ended := (stops [0] 2 [1] rfl (by decide)).2 narrow.2 (by decide) granted
  exact ⟨by decide, (protocol.2.2 (by decide)).1, congrArg Prod.fst ended, by decide⟩

/-- Not every request whose axes have rails is served until a call fails: on a
machine with so many axes that no vector holds them, the first axis is not called for. -/
theorem exists_request_without_call :
    ¬ ∀ (σ : Type) (host : HomingHost Float σ) (axisCount : Nat) (set : AxisSet)
      (rails : Triplet (Option (Rail Float))) (state : σ),
      (∀ axis ∈ host.wanted state, railOf? set rails axis ≠ none) →
      let outcome := (homeInOrder host axisCount set rails state).value
      let calls := callsSeen host axisCount set rails state
      (outcome.1 = .ok () ∧ calls.map (·.move.axis) = host.wanted state) ∨
        ∃ earlier last middle fault, calls = earlier ++ [last] ∧
          host.Grants state earlier middle ∧
          (host.homeRails middle last.rails last.move).value = (.error fault, outcome.2) ∧
          outcome.1 = .error fault := by
  intro served
  have uncalled : callsSeen SimulatedHoming.host (Nat.pow 2 60) Gantry.benchtop.axisSet
      Gantry.benchtop.rails ⟨[0], some 0, [], []⟩ = [] :=
    List.isEmpty_iff.mp (by decide)
  have ends := served (SimulatedHoming Float) SimulatedHoming.host (Nat.pow 2 60)
    Gantry.benchtop.axisSet Gantry.benchtop.rails ⟨[0], some 0, [], []⟩ (by decide)
  simp only [uncalled] at ends
  rcases ends with ⟨-, complete⟩ | ⟨earlier, last, -, -, made, -⟩
  · cases complete
  · exact List.append_ne_nil_of_right_ne_nil earlier (List.cons_ne_nil last []) made.symm

end Homing

end BeltGantry

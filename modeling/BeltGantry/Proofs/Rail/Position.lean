import Mathlib.Tactic.MkIffOfInductiveProp
import BeltGantry.Proofs.Rail.Coupling
namespace BeltGantry

/-!
# Where the steppers of a bank stand

A stepper gets its binding and its position by different requests, and each stepper
gets its own: steppers of one rail may be bound at different times, and one of them may
follow a coordinate that the others ignore.  So the position of a stepper cannot be read
off its binding.  It is what the binding of that time made of the last coordinate that
was pushed to the rail and found the stepper bound.

A run acts on every stepper apart from all others.  `RailRequest.applied` says what one
request makes of a stepper, with no regard to the rest of the bank; the history of a
stepper is told from the end of the run, where the last request decides.
-/

variable {α : Type}

/-! ## What a request makes of a stepper -/

namespace RailRequest

/-- The rail whose steppers a request works on.  Coupling works on endstops only. -/
def rail? : RailRequest α → Option Nat
  | .bind rail _ => some rail
  | .bindStepper rail _ _ => some rail
  | .attachStepper rail _ _ => some rail
  | .moveTo rail _ => some rail
  | .couple _ _ => none

/-- The binding that a request gives to the stepper at a place of the rail of a number. -/
def binding? (number place : Nat) : RailRequest α → Option Binding
  | .bind rail binding => if rail = number then some binding else none
  | .bindStepper rail stepper binding =>
    if rail = number ∧ stepper = place then some binding else none
  | _ => none

/-- The coordinate that a request pushes to the rail of a number. -/
def pushed? (number : Nat) : RailRequest α → Option (Point α)
  | .moveTo rail coordinate => if rail = number then some coordinate else none
  | _ => none

theorem pushed?_eq_some_iff {number : Nat} {request : RailRequest α} {coordinate : Point α} :
    request.pushed? number = some coordinate ↔ request = .moveTo number coordinate := by
  cases request with
  | moveTo rail other =>
    simp only [pushed?, Option.ite_none_right_eq_some, Option.some.injEq, moveTo.injEq]
  | _ => simp [pushed?]

/-- The binding that some requests leave a new stepper with: the last that it was given. -/
def lastBinding? (number place : Nat) (requests : List (RailRequest α)) : Option Binding :=
  (requests.filterMap (·.binding? number place)).getLast?

theorem lastBinding?_append (number place : Nat) (earlier : List (RailRequest α))
    (request : RailRequest α) :
    lastBinding? number place (earlier ++ [request]) =
      (request.binding? number place).or (lastBinding? number place earlier) := by
  unfold lastBinding?
  rw [List.filterMap_append, List.getLast?_append]
  cases given : request.binding? number place <;> simp [given]

variable [Scalar α]

/-- What a request makes of the stepper at a place of the rail of a number. -/
def applied (number place : Nat) (request : RailRequest α) (stepper : Stepper α) : Stepper α :=
  match request with
  | .bind rail binding => if rail = number then stepper.bind binding else stepper
  | .bindStepper rail other binding =>
    if rail = number ∧ other = place then stepper.bind binding else stepper
  | .attachStepper rail other queue =>
    if rail = number ∧ other = place then stepper.attach queue else stepper
  | .moveTo rail coordinate => if rail = number then stepper.moveTo coordinate else stepper
  | .couple _ _ => stepper

variable {number place : Nat} {request : RailRequest α}

/-- A request to another rail, and any coupling, leaves a stepper as it is. -/
theorem applied_of_elsewhere (elsewhere : request.rail? ≠ some number) (stepper : Stepper α) :
    request.applied number place stepper = stepper := by
  cases request with
  | couple => rfl
  | bind rail | moveTo rail =>
    have apart : rail ≠ number := fun same => elsewhere (congrArg some same)
    exact if_neg apart
  | bindStepper rail | attachStepper rail =>
    have apart : rail ≠ number := fun same => elsewhere (congrArg some same)
    exact if_neg fun both => apart both.1

theorem applied_moveTo (number place : Nat) (coordinate : Point α) (stepper : Stepper α) :
    (moveTo number coordinate).applied number place stepper = stepper.moveTo coordinate :=
  if_pos rfl

end RailRequest

namespace Stepper

variable [Scalar α] {stepper : Stepper α}

theorem moveTo_of_unbound (unbound : stepper.binding = none) (coordinate : Point α) :
    stepper.moveTo coordinate = stepper := by
  rw [moveTo, unbound]

theorem moveTo_of_bound {binding : Binding} (bound : stepper.binding = some binding)
    (coordinate : Point α) :
    stepper.moveTo coordinate = { stepper with position := binding.railPosition coordinate } := by
  rw [moveTo, bound]

/-- A coordinate changes the position of a stepper and nothing else. -/
theorem kept_moveTo (stepper : Stepper α) (coordinate : Point α) :
    (stepper.moveTo coordinate).ref = stepper.ref ∧
      (stepper.moveTo coordinate).binding = stepper.binding := by
  cases bound : stepper.binding with
  | none => simp [moveTo_of_unbound bound, bound]
  | some binding => simp [moveTo_of_bound bound, bound]

end Stepper

namespace RailRequest

variable [Scalar α] {number place : Nat}

theorem ref_applied (request : RailRequest α) (stepper : Stepper α) :
    (request.applied number place stepper).ref = stepper.ref := by
  cases request with
  | couple => rfl
  | bind | bindStepper | attachStepper =>
    simp only [applied]
    split_ifs <;> rfl
  | moveTo rail coordinate =>
    simp only [applied]
    split_ifs
    · exact (stepper.kept_moveTo coordinate).1
    · rfl

/-- Only a binding request changes a binding. -/
theorem binding_applied (request : RailRequest α) (stepper : Stepper α) :
    (request.applied number place stepper).binding =
      (request.binding? number place).or stepper.binding := by
  cases request with
  | couple => rfl
  | bind | bindStepper | attachStepper =>
    simp only [applied, binding?]
    split_ifs <;> rfl
  | moveTo rail coordinate =>
    simp only [applied, binding?]
    split_ifs
    · exact (stepper.kept_moveTo coordinate).2
    · rfl

/-- Only a coordinate that is pushed to the rail of a stepper moves it. -/
theorem position_applied_of_unpushed {request : RailRequest α}
    (unpushed : request.pushed? number = none) (stepper : Stepper α) :
    (request.applied number place stepper).position = stepper.position := by
  cases request with
  | couple => rfl
  | bind | bindStepper | attachStepper =>
    simp only [applied]
    split_ifs <;> rfl
  | moveTo rail coordinate =>
    have apart : rail ≠ number := by
      rintro rfl
      simp [pushed?] at unpushed
    rw [applied, if_neg apart]

end RailRequest

/-! ## Steppers of a bank -/

namespace RailBank

/-- The stepper at a place of the rail of a number. -/
def stepper? (bank : RailBank α) (number place : Nat) : Option (Stepper α) :=
  bank[number]?.bind (·.steppers[place]?)

variable [Scalar α]

/-- A request that works on other steppers leaves those of a rail as they are. -/
theorem steppers_changed_of_elsewhere (bank : RailBank α) {number : Nat}
    {request : RailRequest α} (elsewhere : request.rail? ≠ some number) (rail : Rail α) :
    (bank.changed number request rail).steppers = rail.steppers := by
  cases request with
  | couple first second => rfl
  | bind other | bindStepper other | attachStepper other | moveTo other =>
    have apart : other ≠ number := fun same => elsewhere (congrArg some same)
    rw [changed, if_neg apart]

theorem getElem?_steppers_changed (bank : RailBank α) (request : RailRequest α) (rail : Rail α)
    (number place : Nat) :
    (bank.changed number request rail).steppers[place]? =
      rail.steppers[place]?.map (request.applied number place) := by
  by_cases elsewhere : request.rail? ≠ some number
  · have kept : request.applied number place = id :=
      funext (RailRequest.applied_of_elsewhere elsewhere)
    rw [bank.steppers_changed_of_elsewhere elsewhere, kept, Option.map_id_apply]
  · have here := Decidable.of_not_not elsewhere
    cases request with
    | couple => cases here
    | bind other | moveTo other =>
      cases here
      simp only [changed, if_true]
      refine (List.getElem?_map ..).trans (Option.map_congr fun stepper _ => ?_)
      exact (if_pos rfl).symm
    | bindStepper other single | attachStepper other single =>
      cases here
      simp only [changed, if_true]
      refine (List.getElem?_modify ..).trans (Option.map_congr fun stepper _ => ?_)
      by_cases same : single = place <;> simp [same, RailRequest.applied]

/-- A request changes every stepper of a bank on its own. -/
theorem stepper?_perform (bank : RailBank α) (request : RailRequest α) (number place : Nat) :
    (bank.perform request).value.stepper? number place =
      (bank.stepper? number place).map (request.applied number place) := by
  unfold stepper?
  rw [getElem?_perform]
  cases bank[number]? with
  | none => rfl
  | some rail => exact bank.getElem?_steppers_changed request rail number place

/-! ## Runs -/

theorem stepper?_run_append (bank : RailBank α) (earlier : List (RailRequest α))
    (request : RailRequest α) (number place : Nat) :
    (bank.run (earlier ++ [request])).stepper? number place =
      ((bank.run earlier).stepper? number place).map (request.applied number place) := by
  have split : bank.run (earlier ++ [request]) = ((bank.run earlier).perform request).value :=
    List.foldl_append
  rw [split, stepper?_perform]

/-- A stepper stays at its place over a run, with the binding that it was given last. -/
theorem exists_stepper?_run {bank : RailBank α} {number place : Nat} {before : Stepper α}
    (held : bank.stepper? number place = some before) (requests : List (RailRequest α)) :
    ∃ stepper, (bank.run requests).stepper? number place = some stepper ∧
      stepper.ref = before.ref ∧
      stepper.binding = (RailRequest.lastBinding? number place requests).or before.binding := by
  induction requests using List.reverseRecOn with
  | nil => exact ⟨before, held, rfl, rfl⟩
  | append_singleton earlier request inductionHypothesis =>
    rcases inductionHypothesis with ⟨stepper, present, ref, binding⟩
    refine ⟨request.applied number place stepper, ?_, ?_, ?_⟩
    · rw [stepper?_run_append, present, Option.map_some]
    · rw [RailRequest.ref_applied, ref]
    · rw [RailRequest.binding_applied, binding, RailRequest.lastBinding?_append, Option.or_assoc]

/-- The binding of the stepper at a place of the rail of a number. -/
def bindingAt (bank : RailBank α) (number place : Nat) : Option Binding :=
  (bank.stepper? number place).bind Stepper.binding

/-- At a moment of a run, a coordinate is pushed to the rail of a stepper and finds the
stepper with a binding. -/
@[mk_iff]
structure Reaches (bank : RailBank α) (requests : List (RailRequest α))
    (number place moment : Nat) (binding : Binding) (coordinate : Point α) : Prop where
  pushed : requests[moment]? = some (.moveTo number coordinate)
  bound : (bank.run (requests.take moment)).bindingAt number place = some binding

theorem reaches_append_iff {bank : RailBank α} {earlier : List (RailRequest α)}
    {request : RailRequest α} {number place moment : Nat} {binding : Binding}
    {coordinate : Point α} :
    bank.Reaches (earlier ++ [request]) number place moment binding coordinate ↔
      bank.Reaches earlier number place moment binding coordinate ∨
        moment = earlier.length ∧ request = .moveTo number coordinate ∧
          (bank.run earlier).bindingAt number place = some binding := by
  rw [reaches_iff, reaches_iff]
  rcases Nat.lt_trichotomy moment earlier.length with before | rfl | beyond
  · rw [List.getElem?_append_left before, List.take_append_of_le_length (Nat.le_of_lt before)]
    simp [Nat.ne_of_lt before]
  · rw [List.getElem?_concat_length, List.take_left]
    simp
  · have outside : (earlier ++ [request]).length ≤ moment := by
      rw [List.length_append]
      exact beyond
    rw [List.getElem?_eq_none outside, List.getElem?_eq_none (Nat.le_of_lt beyond)]
    simp [Nat.ne_of_gt beyond]

/-- Where a stepper stands after a run that found it at zero: where the last coordinate
that reached it was put by the binding of that moment, or still at zero. -/
inductive Stands (bank : RailBank α) (requests : List (RailRequest α)) (number place : Nat) :
    α → Prop where
  | followed {moment : Nat} {binding : Binding} {coordinate : Point α}
      (reached : bank.Reaches requests number place moment binding coordinate)
      (last : ∀ later other elsewhere, moment < later →
        ¬ bank.Reaches requests number place later other elsewhere) :
      Stands bank requests number place (binding.railPosition coordinate)
  | rested (never : ∀ moment binding coordinate,
        ¬ bank.Reaches requests number place moment binding coordinate) :
      Stands bank requests number place 0.0

/-- What does not reach a stepper leaves it where it stands. -/
theorem Stands.of_unreached {bank : RailBank α} {earlier : List (RailRequest α)}
    {number place : Nat} {position : α} (stands : bank.Stands earlier number place position)
    {request : RailRequest α}
    (unreached : ∀ coordinate, request = .moveTo number coordinate →
      (bank.run earlier).bindingAt number place = none) :
    bank.Stands (earlier ++ [request]) number place position := by
  have same (moment : Nat) (binding : Binding) (coordinate : Point α) :
      bank.Reaches (earlier ++ [request]) number place moment binding coordinate ↔
        bank.Reaches earlier number place moment binding coordinate := by
    rw [reaches_append_iff, or_iff_left]
    rintro ⟨-, pushed, bound⟩
    rw [unreached coordinate pushed] at bound
    cases bound
  cases stands with
  | followed reached last =>
    exact .followed ((same ..).mpr reached) (by simpa only [same] using last)
  | rested never => exact .rested (by simpa only [same] using never)

/-- A coordinate that reaches a stepper decides where it stands. -/
theorem stands_of_reached {bank : RailBank α} {earlier : List (RailRequest α)}
    {number place : Nat} {binding : Binding}
    (bound : (bank.run earlier).bindingAt number place = some binding) (coordinate : Point α) :
    bank.Stands (earlier ++ [.moveTo number coordinate]) number place
      (binding.railPosition coordinate) := by
  refine .followed (reaches_append_iff.mpr (.inr ⟨rfl, rfl, bound⟩)) ?_
  rintro later other elsewhere beyond ⟨pushed, -⟩
  have inside := (List.getElem?_eq_some_iff.mp pushed).1
  rw [List.length_append] at inside
  exact Nat.not_lt_of_le (Nat.le_of_lt_succ inside) beyond

/-- The history of a run decides where every stepper stands. -/
theorem stands_run {bank : RailBank α} {number place : Nat} {before : Stepper α}
    (held : bank.stepper? number place = some before) (atRest : before.position = 0.0)
    (requests : List (RailRequest α)) {stepper : Stepper α}
    (present : (bank.run requests).stepper? number place = some stepper) :
    bank.Stands requests number place stepper.position := by
  induction requests using List.reverseRecOn generalizing stepper with
  | nil =>
    have same : before = stepper := Option.some.inj (held.symm.trans present)
    rw [← same, atRest]
    apply Stands.rested
    rintro moment binding coordinate ⟨pushed, -⟩
    cases pushed
  | append_singleton earlier request inductionHypothesis =>
    rcases exists_stepper?_run held earlier with ⟨middle, presentBefore, -⟩
    have stands := inductionHypothesis presentBefore
    have bindingBefore : (bank.run earlier).bindingAt number place = middle.binding := by
      rw [bindingAt, presentBefore, Option.bind_some]
    rw [stepper?_run_append, presentBefore, Option.map_some, Option.some.injEq] at present
    subst present
    -- Only a coordinate that is pushed to the rail can move the stepper, and it does so
    -- exactly if it finds a binding.
    cases pushed : request.pushed? number with
    | none =>
      rw [RailRequest.position_applied_of_unpushed pushed]
      apply stands.of_unreached
      rintro coordinate rfl
      simp [RailRequest.pushed?] at pushed
    | some coordinate =>
      cases RailRequest.pushed?_eq_some_iff.mp pushed
      rw [RailRequest.applied_moveTo]
      cases bound : middle.binding with
      | none =>
        rw [Stepper.moveTo_of_unbound bound]
        exact stands.of_unreached fun _ _ => bindingBefore.trans bound
      | some binding =>
        rw [Stepper.moveTo_of_bound bound]
        exact stands_of_reached (bindingBefore.trans bound) coordinate

/-! ## Banks as they are made -/

theorem fresh_of_ofSections {sections : List (Char × RailSection α)} {bank : RailBank α}
    (made : ofSections sections = .ok bank) {number place : Nat} {stepper : Stepper α}
    (held : bank.stepper? number place = some stepper) :
    stepper.binding = none ∧ stepper.position = 0.0 := by
  rcases Option.bind_eq_some_iff.mp held with ⟨rail, railHeld, onRail⟩
  rcases ofSection_of_ofSections made railHeld with ⟨letter, given, -, single⟩
  rw [(Rail.made_of_ofSection single).1.steppers] at onRail
  rcases List.mem_map.mp (List.mem_of_getElem? onRail) with ⟨ref, -, rfl⟩
  exact ⟨rfl, rfl⟩

/-- A rail has a stepper at all times, and the first one answers for the rail. -/
theorem exists_first_run {sections : List (Char × RailSection α)} {bank : RailBank α}
    (made : ofSections sections = .ok bank) (requests : List (RailRequest α)) {number : Nat}
    {rail : Rail α} (held : (bank.run requests)[number]? = some rail) :
    ∃ first, (bank.run requests).stepper? number 0 = some first ∧
      rail.position = first.position := by
  rcases bank.getElem?_run requests number with ⟨becomes, performed, sound⟩
  rw [held] at performed
  rcases Option.map_eq_some_iff.mp performed.symm with ⟨before, heldBefore, rfl⟩
  rcases ofSection_of_ofSections made heldBefore with ⟨letter, given, -, single⟩
  have driven := (Rail.made_of_ofSection single).1.driven
  have kept := congrArg List.length (sound before).1
  unfold stepper? Rail.position
  rw [held, Option.bind_some]
  cases listed : (becomes before).steppers with
  | nil =>
    rw [Rail.refs, Rail.refs, List.length_map, List.length_map, listed] at kept
    exact absurd (List.length_eq_zero_iff.mp kept.symm) driven
  | cons first rest => exact ⟨first, rfl, rfl⟩

/-- After any run of requests to rails that were made from sections, every stepper is at
its place, bound as it was last, and stands where the binding of that time put the last
coordinate that was pushed to its rail and found it bound, or at zero if none did.  What
comes next moves it only if it is another such coordinate: a binding does not, nor does a
coordinate that finds no binding, whatever it does to other steppers of the rail, and
what goes to other rails changes nothing in it.  The position of a rail is that of its
first stepper. -/
theorem position_of_run (sections : List (Char × RailSection α)) (bank : RailBank α)
    (made : ofSections sections = .ok bank) (requests : List (RailRequest α)) :
    let after := bank.run requests
    (∀ number place before, bank.stepper? number place = some before →
      ∃ stepper, after.stepper? number place = some stepper ∧ stepper.ref = before.ref ∧
        stepper.binding = RailRequest.lastBinding? number place requests ∧
        bank.Stands requests number place stepper.position ∧
        ∀ request, ∃ next, (after.perform request).value.stepper? number place = some next ∧
          (request.pushed? number = none → next.position = stepper.position) ∧
          (request.rail? ≠ some number → next = stepper) ∧
          ∀ coordinate, request = .moveTo number coordinate →
            (stepper.binding = none → next = stepper) ∧
            ∀ binding, stepper.binding = some binding →
              next = { stepper with position := binding.railPosition coordinate }) ∧
    ∀ number rail, after[number]? = some rail →
      ∃ first, after.stepper? number 0 = some first ∧ rail.position = first.position := by
  intro after
  refine ⟨?_, fun number rail held => exists_first_run made requests held⟩
  intro number place before held
  rcases fresh_of_ofSections made held with ⟨unbound, atRest⟩
  rcases exists_stepper?_run held requests with ⟨stepper, present, ref, binding⟩
  rw [unbound, Option.or_none] at binding
  refine ⟨stepper, present, ref, binding, stands_run held atRest requests present, ?_⟩
  intro request
  refine ⟨request.applied number place stepper, ?_, ?_, ?_, ?_⟩
  · rw [stepper?_perform, present, Option.map_some]
  · intro unpushed
    exact RailRequest.position_applied_of_unpushed unpushed stepper
  · intro elsewhere
    exact RailRequest.applied_of_elsewhere elsewhere stepper
  · rintro coordinate rfl
    rw [RailRequest.applied_moveTo]
    exact ⟨fun free => Stepper.moveTo_of_unbound free coordinate,
      fun other bound => Stepper.moveTo_of_bound bound coordinate⟩

/-- Requests that push a coordinate to a rail of which only the second stepper is bound,
and then bind the whole rail otherwise. -/
def bindingLate : List (RailRequest Float) :=
  [.bindStepper 0 1 .coupledPlus, .moveTo 0 ⟨7.0, 3.0, 5.0⟩, .bind 0 .coupledMinus,
    .moveTo 1 ⟨1.0, 2.0, 3.0⟩, .couple 0 1]

theorem moment_of_bindingLate {moment : Nat} {coordinate : Point Float}
    (pushed : bindingLate[moment]? = some (.moveTo 0 coordinate)) : moment = 1 := by
  rcases moment with _ | _ | _ | _ | _ | moment <;> simp [bindingLate] at pushed ⊢

/-- The second stepper stays where its first binding put it, the other one at zero. -/
theorem position_of_run_bindingLate : ∃ bank first second,
    ofSections alikeSections = .ok bank ∧
      (bank.run bindingLate).stepper? 0 0 = some first ∧ first.position = 0.0 ∧
      (bank.run bindingLate).stepper? 0 1 = some second ∧ second.position = 10.0 ∧
      second.binding = some .coupledMinus := by
  have start : ∃ bank first second, ofSections alikeSections = .ok bank ∧
      bank.stepper? 0 0 = some first ∧ bank.stepper? 0 1 = some second ∧
      (bank.run (bindingLate.take 1)).bindingAt 0 0 = none ∧
      (bank.run (bindingLate.take 1)).bindingAt 0 1 = some .coupledPlus :=
    ⟨_, _, _, rfl, rfl, rfl, rfl, rfl⟩
  rcases start with ⟨bank, _, _, made, heldFirst, heldSecond, unbound, bound⟩
  rcases position_of_run alikeSections bank made bindingLate with ⟨steppers, -⟩
  rcases steppers 0 0 _ heldFirst with ⟨first, presentFirst, -, -, standsFirst, -⟩
  rcases steppers 0 1 _ heldSecond with ⟨second, presentSecond, -, binding, standsSecond, -⟩
  refine ⟨bank, first, second, made, presentFirst, ?_, presentSecond, ?_, binding⟩
  · generalize first.position = position at standsFirst ⊢
    cases standsFirst with
    | rested never => rfl
    | followed reached last =>
      rcases reached with ⟨pushed, reached⟩
      rw [moment_of_bindingLate pushed, unbound] at reached
      cases reached
  · have reaches : bank.Reaches bindingLate 0 1 1 .coupledPlus ⟨7.0, 3.0, 5.0⟩ :=
      ⟨rfl, bound⟩
    generalize second.position = position at standsSecond ⊢
    cases standsSecond with
    | rested never => exact absurd reaches (never _ _ _)
    | followed reached last =>
      rcases reached with ⟨pushed, boundThen⟩
      cases moment_of_bindingLate pushed
      cases pushed
      rw [bound] at boundThen
      cases boundThen
      decide +kernel

end RailBank

end BeltGantry

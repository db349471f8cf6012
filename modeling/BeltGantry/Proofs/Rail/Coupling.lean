import Mathlib.Data.List.Induction
import BeltGantry.Rail.Bank
import BeltGantry.Proofs.Rail.Making
namespace BeltGantry

/-!
# Coupled rails

However a bank of rails is used, an endstop stops the steppers of its own rail and
of those that its rail was coupled with, and no others.  The rails come in the
order of their first coupling.  What the partners of a rail were coupled with makes
no difference, because a coupling takes over the steppers that a rail has and not
those that its endstop stops.

A request changes each rail of the bank on its own: it keeps the steppers where they
are, and it lets the endstop take in the steppers of at most one other rail.  Over a
run, an endstop takes in the steppers of one rail after the other, of some of them
again and again.  Since the rails of a bank have no handle in common, what is taken
in again is exactly what is held already.
-/

/-! ## Endstops that take in rails -/

/-- A list for each number whose handles are the first places under that number. -/
def PlacedByNumber (refsOf : Nat → List StepperRef) : Prop :=
  ∀ number, (refsOf number).map StepperRef.handle = placesOn number (refsOf number).length

namespace PlacedByNumber

variable {refsOf : Nat → List StepperRef}

theorem rail_of_mem (placed : PlacedByNumber refsOf) {number : Nat} {ref : StepperRef}
    (listed : ref ∈ refsOf number) : ref.handle.rail = number := by
  have among : ref.handle ∈ (refsOf number).map StepperRef.handle := List.mem_map_of_mem listed
  rw [placed number] at among
  exact rail_of_mem_placesOn among

/-- Lists of different numbers have no handle in common. -/
theorem nodup_flatMap (placed : PlacedByNumber refsOf) {numbers : List Nat}
    (distinct : numbers.Nodup) :
    ((numbers.flatMap refsOf).map StepperRef.handle).Nodup := by
  rw [List.map_flatMap, List.nodup_flatMap]
  constructor
  · intro number _
    rw [placed number]
    exact nodup_placesOn number _
  · apply distinct.imp
    intro first second apart handle here there
    dsimp only at here there
    rw [placed] at here there
    exact apart (by rw [← rail_of_mem_placesOn here, rail_of_mem_placesOn there])

/-- A reference has its handle in the lists of some numbers if and only if its own
number is among them. -/
theorem handle_mem_iff (placed : PlacedByNumber refsOf) {numbers : List Nat} {number : Nat}
    {ref : StepperRef} (listed : ref ∈ refsOf number) :
    ref.handle ∈ (numbers.flatMap refsOf).map StepperRef.handle ↔ number ∈ numbers := by
  constructor
  · intro held
    rcases List.mem_map.mp held with ⟨other, otherListed, same⟩
    rcases List.mem_flatMap.mp otherListed with ⟨otherNumber, among, otherListed⟩
    rw [← placed.rail_of_mem listed, ← same, placed.rail_of_mem otherListed]
    exact among
  · intro among
    exact List.mem_map_of_mem (List.mem_flatMap_of_mem among listed)

end PlacedByNumber

theorem eraseDups_append_of_mem {earlier : List Nat} {last : Nat} (known : last ∈ earlier) :
    (earlier ++ [last]).eraseDups = earlier.eraseDups := by
  rw [List.eraseDups_append]
  simp [List.removeAll, known]

theorem eraseDups_append_of_not_mem {earlier : List Nat} {last : Nat} (unknown : last ∉ earlier) :
    (earlier ++ [last]).eraseDups = earlier.eraseDups ++ [last] := by
  rw [List.eraseDups_append]
  simp [List.removeAll, unknown, List.eraseDups_cons]

/-- What is left after the later copies are erased has no copies. -/
theorem nodup_eraseDups (numbers : List Nat) : numbers.eraseDups.Nodup := by
  induction numbers using List.reverseRecOn with
  | nil => exact List.nodup_nil
  | append_singleton earlier last inductionHypothesis =>
    by_cases known : last ∈ earlier
    · rw [eraseDups_append_of_mem known]
      exact inductionHypothesis
    · rw [eraseDups_append_of_not_mem known, List.nodup_append_comm, List.singleton_append]
      exact List.nodup_cons.mpr ⟨fun copied => known (List.mem_eraseDups.mp copied),
        inductionHypothesis⟩

namespace Endstop

theorem addAll_append (endstop : Endstop) (earlier later : List StepperRef) :
    endstop.addAll (earlier ++ later) = (endstop.addAll earlier).addAll later :=
  List.foldl_append

/-- Steppers that are held already are not taken in again. -/
theorem addAll_of_held (endstop : Endstop) (steppers : List StepperRef)
    (held : ∀ stepper ∈ steppers, endstop.holds stepper = true) :
    endstop.addAll steppers = endstop := by
  induction steppers with
  | nil => rfl
  | cons first rest inductionHypothesis =>
    rcases List.forall_mem_cons.mp held with ⟨heldFirst, heldRest⟩
    have unchanged : endstop.add first = endstop := by simp [add, heldFirst]
    change (endstop.add first).addAll rest = endstop
    rw [unchanged]
    exact inductionHypothesis heldRest

/-- An endstop that takes in the lists of some numbers, one after the other, stops
each list once, in the order in which the numbers first occur. -/
theorem addAll_flatMap {refsOf : Nat → List StepperRef} (placed : PlacedByNumber refsOf)
    (name : String) (numbers : List Nat) :
    addAll ⟨name, []⟩ (numbers.flatMap refsOf) = ⟨name, numbers.eraseDups.flatMap refsOf⟩ := by
  induction numbers using List.reverseRecOn with
  | nil => rfl
  | append_singleton earlier last inductionHypothesis =>
    rw [List.flatMap_append, addAll_append, inductionHypothesis, List.flatMap_singleton]
    -- The list of a number that came before is held with all its handles; any other
    -- list has none in common with those that are held.
    by_cases known : last ∈ earlier
    · rw [eraseDups_append_of_mem known]
      apply addAll_of_held
      intro stepper listed
      rw [holds_eq_true_iff, placed.handle_mem_iff listed, List.mem_eraseDups]
      exact known
    · have distinct := placed.nodup_flatMap (nodup_eraseDups (earlier ++ [last]))
      rw [eraseDups_append_of_not_mem known, List.flatMap_append, List.flatMap_singleton]
        at distinct ⊢
      exact addAll_of_nodup _ _ distinct

end Endstop

/-! ## What a request does to a rail -/

namespace Rail

variable {α : Type}

/-- A change of one stepper that leaves its reference alone. -/
theorem refs_modifyStepper (rail : Rail α) (place : Nat) (change : Stepper α → Stepper α)
    (kept : ∀ stepper, (change stepper).ref = stepper.ref) :
    (rail.modifyStepper place change).refs = rail.refs := by
  ext1 number
  simp only [refs, modifyStepper, List.getElem?_map, List.getElem?_modify]
  cases rail.steppers[number]? with
  | none => rfl
  | some stepper =>
    by_cases same : place = number
    · simp [same, kept]
    · simp [same]

theorem refs_moveTo [Scalar α] (rail : Rail α) (coordinate : Point α) :
    (rail.moveTo coordinate).refs = rail.refs := by
  unfold refs moveTo
  rw [List.map_map]
  apply List.map_congr_left
  rintro ⟨ref, binding, queue, position⟩ -
  cases binding <;> rfl

end Rail

namespace RailRequest

variable {α : Type}

/-- The rail that a request couples the rail of a number with. -/
def partner? (number : Nat) : RailRequest α → Option Nat
  | .couple first second =>
    if first = number then some second else if second = number then some first else none
  | _ => none

theorem partner?_couple (number first second : Nat) :
    (couple first second : RailRequest α).partner? number =
      if first = number then some second else if second = number then some first else none := rfl

theorem partner?_eq_some_iff {number other : Nat} {request : RailRequest α} :
    request.partner? number = some other ↔
      request = .couple number other ∨ request = .couple other number := by
  cases request with
  | couple first second =>
    rw [partner?_couple]
    split_ifs <;> grind
  | _ => simp [partner?]

theorem partner?_couple_comm (number first second : Nat) :
    (couple first second : RailRequest α).partner? number =
      (couple second first : RailRequest α).partner? number := by
  rw [partner?_couple, partner?_couple]
  split_ifs with isFirst isSecond
  · rw [isFirst, isSecond]
  all_goals rfl

/-- The rails that the rail of a number is coupled with by some requests, in the order
of their first coupling. -/
def partners (number : Nat) (requests : List (RailRequest α)) : List Nat :=
  ((requests.filterMap (·.partner? number)).filter fun other => !other == number).eraseDups

theorem cons_partners (number : Nat) (requests : List (RailRequest α)) :
    number :: partners number requests =
      (number :: requests.filterMap (·.partner? number)).eraseDups :=
  List.eraseDups_cons.symm

theorem mem_cons_partners_iff {number other : Nat} {requests : List (RailRequest α)} :
    other ∈ number :: partners number requests ↔
      other = number ∨ .couple number other ∈ requests ∨ .couple other number ∈ requests := by
  rw [cons_partners, List.mem_eraseDups, List.mem_cons, List.mem_filterMap]
  simp only [partner?_eq_some_iff]
  constructor
  · rintro (own | ⟨request, listed, coupling | coupling⟩)
    · exact .inl own
    · exact .inr (.inl (coupling ▸ listed))
    · exact .inr (.inr (coupling ▸ listed))
  · rintro (own | listed | listed)
    · exact .inl own
    · exact .inr ⟨_, listed, .inl rfl⟩
    · exact .inr ⟨_, listed, .inr rfl⟩

end RailRequest

namespace RailBank

variable {α : Type}

/-- References to the steppers of the rail of a number. -/
def refsOf (bank : RailBank α) (number : Nat) : List StepperRef :=
  (bank[number]?.map Rail.refs).getD []

theorem refsOf_of_held {bank : RailBank α} {number : Nat} {rail : Rail α}
    (held : bank[number]? = some rail) : bank.refsOf number = rail.refs := by
  rw [refsOf, held]
  rfl

/-- The steppers that a request adds to the endstop of the rail of a number. -/
def joining (bank : RailBank α) (number : Nat) (request : RailRequest α) : List StepperRef :=
  (request.partner? number).toList.flatMap bank.refsOf

theorem joining_couple_first (bank : RailBank α) (first second : Nat) :
    bank.joining first (.couple first second) = bank.refsOf second := by
  unfold joining
  rw [RailRequest.partner?_couple, if_pos rfl]
  exact List.flatMap_singleton ..

theorem joining_couple_comm (bank : RailBank α) (number first second : Nat) :
    bank.joining number (.couple first second) = bank.joining number (.couple second first) := by
  unfold joining
  rw [RailRequest.partner?_couple_comm]

theorem joining_couple_of_ne (bank : RailBank α) {number first second : Nat}
    (notFirst : first ≠ number) (notSecond : second ≠ number) :
    bank.joining number (.couple first second) = [] := by
  unfold joining
  rw [RailRequest.partner?_couple, if_neg notFirst, if_neg notSecond]
  rfl

/-- A rail that is not there has no steppers to add. -/
theorem joining_couple_of_absent {bank : RailBank α} {number first second : Nat} {rail : Rail α}
    (absent : bank[first]? = none ∨ bank[second]? = none) (held : bank[number]? = some rail) :
    bank.joining number (.couple first second) = [] := by
  unfold joining
  cases partner : (RailRequest.couple first second : RailRequest α).partner? number with
  | none => rfl
  | some other =>
    have present : bank[number]? ≠ none := held ▸ Option.some_ne_none rail
    have absentOther : bank[other]? = none := by
      rcases RailRequest.partner?_eq_some_iff.mp partner with same | same
      · rcases RailRequest.couple.inj same with ⟨rfl, rfl⟩
        exact absent.resolve_left present
      · rcases RailRequest.couple.inj same with ⟨rfl, rfl⟩
        exact absent.resolve_right present
    simp [refsOf, absentOther]

theorem couple_of_absent {bank : RailBank α} {first second : Nat}
    (absent : bank[first]? = none ∨ bank[second]? = none) :
    (bank.couple first second).value = bank := by
  unfold couple
  rcases absent with absent | absent
  · rw [absent]
    rfl
  · rw [absent]
    cases bank[first]? <;> rfl

theorem couple_of_present {bank : RailBank α} {first second : Nat} {a b : Rail α}
    (heldFirst : bank[first]? = some a) (heldSecond : bank[second]? = some b) :
    (bank.couple first second).value =
      (bank.set first (a.coupledTo b)).set second (b.coupledTo a) := by
  unfold couple
  rw [heldFirst, heldSecond]

variable [Scalar α]

/-- What a request makes of the rail of a number. -/
def changed (bank : RailBank α) (number : Nat) (request : RailRequest α) (rail : Rail α) :
    Rail α :=
  match request with
  | .bind place binding => if place = number then rail.bind binding else rail
  | .bindStepper place stepper binding =>
    if place = number then rail.modifyStepper stepper (·.bind binding) else rail
  | .attachStepper place stepper queue =>
    if place = number then rail.modifyStepper stepper (·.attach queue) else rail
  | .moveTo place coordinate => if place = number then rail.moveTo coordinate else rail
  | .couple _ _ => { rail with endstop := rail.endstop.addAll (bank.joining number request) }

theorem changed_couple_of_nothing {bank : RailBank α} {number first second : Nat} (rail : Rail α)
    (nothing : bank.joining number (.couple first second) = []) :
    bank.changed number (.couple first second) rail = rail := by
  rw [changed, nothing]
  rfl

/-- Coupling changes each of two rails by what the other one was before. -/
theorem getElem?_couple (bank : RailBank α) (first second number : Nat) :
    (bank.couple first second).value[number]? =
      bank[number]?.map (bank.changed number (.couple first second)) := by
  by_cases absent : bank[first]? = none ∨ bank[second]? = none
  · rw [couple_of_absent absent]
    cases held : bank[number]? with
    | none => rfl
    | some rail =>
      exact congrArg some
        (changed_couple_of_nothing rail (joining_couple_of_absent absent held)).symm
  · rcases not_or.mp absent with ⟨presentFirst, presentSecond⟩
    rcases Option.ne_none_iff_exists'.mp presentFirst with ⟨a, heldFirst⟩
    rcases Option.ne_none_iff_exists'.mp presentSecond with ⟨b, heldSecond⟩
    rw [couple_of_present heldFirst heldSecond]
    -- The second rail is written last, so it decides where both places are the same.
    by_cases isSecond : second = number
    · subst isSecond
      have inRange : second < (bank.set first (a.coupledTo b)).length := by
        rw [List.length_set]
        exact (List.getElem?_eq_some_iff.mp heldSecond).1
      rw [List.getElem?_set_self inRange, heldSecond, Option.map_some, changed,
        joining_couple_comm, joining_couple_first, refsOf_of_held heldFirst]
      rfl
    · rw [List.getElem?_set_ne isSecond]
      by_cases isFirst : first = number
      · subst isFirst
        have inRange := (List.getElem?_eq_some_iff.mp heldFirst).1
        rw [List.getElem?_set_self inRange, heldFirst, Option.map_some, changed,
          joining_couple_first, refsOf_of_held heldSecond]
        rfl
      · rw [List.getElem?_set_ne isFirst]
        have nothing := bank.joining_couple_of_ne isFirst isSecond
        have unchanged : bank.changed number (.couple first second) = id :=
          funext fun rail => changed_couple_of_nothing rail nothing
        rw [unchanged, Option.map_id_fun, id]

/-- A request changes every rail of the bank on its own. -/
theorem getElem?_perform (bank : RailBank α) (request : RailRequest α) (number : Nat) :
    (bank.perform request).value[number]? = bank[number]?.map (bank.changed number request) := by
  cases request with
  | couple first second => exact bank.getElem?_couple first second number
  | _ => exact List.getElem?_modify ..

theorem refs_changed (bank : RailBank α) (number : Nat) (request : RailRequest α)
    (rail : Rail α) : (bank.changed number request rail).refs = rail.refs := by
  cases request with
  | couple first second => rfl
  | bind place binding =>
    simp only [changed]
    split_ifs
    · exact rail.refs_bind binding
    · rfl
  | bindStepper place stepper | attachStepper place stepper =>
    simp only [changed]
    split_ifs
    · exact rail.refs_modifyStepper stepper _ fun _ => rfl
    · rfl
  | moveTo place coordinate =>
    simp only [changed]
    split_ifs
    · exact rail.refs_moveTo coordinate
    · rfl

/-- Only coupling changes an endstop. -/
theorem endstop_changed (bank : RailBank α) (number : Nat) (request : RailRequest α)
    (rail : Rail α) :
    (bank.changed number request rail).endstop =
      rail.endstop.addAll (bank.joining number request) := by
  cases request with
  | couple first second => rfl
  | bind | bindStepper | attachStepper | moveTo =>
    simp only [changed]
    split_ifs <;> rfl

/-- A request keeps the steppers of every rail. -/
theorem refsOf_perform (bank : RailBank α) (request : RailRequest α) :
    (bank.perform request).value.refsOf = bank.refsOf := by
  funext number
  unfold refsOf
  rw [getElem?_perform]
  cases bank[number]? with
  | none => rfl
  | some rail => exact bank.refs_changed number request rail

/-! ## Runs -/

/-- The bank after a list of requests. -/
def run (bank : RailBank α) (requests : List (RailRequest α)) : RailBank α :=
  requests.foldl (fun bank request => (bank.perform request).value) bank

/-- Over a run, the rail of a number keeps its steppers, and its endstop takes in the
steppers of the rails that it is coupled with, request after request. -/
theorem getElem?_run (bank : RailBank α) (requests : List (RailRequest α)) (number : Nat) :
    ∃ becomes : Rail α → Rail α, (bank.run requests)[number]? = bank[number]?.map becomes ∧
      ∀ rail, (becomes rail).refs = rail.refs ∧
        (becomes rail).endstop =
          rail.endstop.addAll (requests.flatMap (bank.joining number)) := by
  induction requests generalizing bank with
  | nil => exact ⟨id, by simp [run], fun _ => ⟨rfl, rfl⟩⟩
  | cons request rest inductionHypothesis =>
    rcases inductionHypothesis (bank.perform request).value with ⟨later, performed, sound⟩
    have sameJoining : (bank.perform request).value.joining number = bank.joining number := by
      funext other
      rw [joining, refsOf_perform, joining]
    refine ⟨later ∘ bank.changed number request, ?_, fun rail => ?_⟩
    · rw [← Option.map_map, ← getElem?_perform]
      exact performed
    · rcases sound (bank.changed number request rail) with ⟨refs, endstop⟩
      rw [sameJoining, endstop_changed, ← Endstop.addAll_append] at endstop
      rw [refs_changed] at refs
      exact ⟨refs, endstop⟩

theorem refs_run (bank : RailBank α) (requests : List (RailRequest α)) :
    (bank.run requests).map Rail.refs = bank.map Rail.refs := by
  ext1 number
  rcases bank.getElem?_run requests number with ⟨becomes, performed, sound⟩
  rw [List.getElem?_map, List.getElem?_map, performed, Option.map_map]
  exact Option.map_congr fun rail _ => (sound rail).1

theorem refsOf_run (bank : RailBank α) (requests : List (RailRequest α)) :
    (bank.run requests).refsOf = bank.refsOf := by
  funext number
  rw [refsOf, refsOf, ← List.getElem?_map, refs_run, List.getElem?_map]

/-! ## Banks as they are made -/

theorem ofSection_of_go {start : Nat} {sections : List (Char × RailSection α)}
    {bank : RailBank α} (made : ofSections.go start sections = .ok bank) {number : Nat}
    {rail : Rail α} (held : bank[number]? = some rail) :
    ∃ letter given, sections[number]? = some (letter, given) ∧
      Rail.ofSection (start + number) letter given = .ok rail := by
  induction sections generalizing start bank number with
  | nil =>
    rw [← Except.ok.inj made] at held
    cases held
  | cons first rest inductionHypothesis =>
    rcases first with ⟨letter, given⟩
    unfold ofSections.go at made
    cases single : Rail.ofSection start letter given with
    | error cause => simp [single] at made
    | ok own =>
      cases others : ofSections.go (start + 1) rest with
      | error cause => simp [single, others] at made
      | ok later =>
        simp only [single, others, Except.ok.injEq] at made
        subst made
        cases number with
        | zero =>
          rw [← Option.some.inj held]
          exact ⟨letter, given, rfl, single⟩
        | succ number =>
          rcases inductionHypothesis others held with ⟨letter, given, listed, laterSingle⟩
          rw [Nat.add_assoc, Nat.add_comm 1] at laterSingle
          exact ⟨letter, given, listed, laterSingle⟩

/-- The rail of a number is made from the section of that number. -/
theorem ofSection_of_ofSections {sections : List (Char × RailSection α)}
    {bank : RailBank α} (made : ofSections sections = .ok bank) {number : Nat}
    {rail : Rail α} (held : bank[number]? = some rail) :
    ∃ letter given, sections[number]? = some (letter, given) ∧
      Rail.ofSection number letter given = .ok rail := by
  rcases ofSection_of_go made held with ⟨letter, given, listed, single⟩
  rw [Nat.zero_add] at single
  exact ⟨letter, given, listed, single⟩

theorem placedByNumber_of_ofSections {sections : List (Char × RailSection α)}
    {bank : RailBank α} (made : ofSections sections = .ok bank) : PlacedByNumber bank.refsOf := by
  intro number
  cases held : bank[number]? with
  | none => simp [refsOf, held, placesOn]
  | some rail =>
    rcases ofSection_of_ofSections made held with ⟨letter, given, -, single⟩
    rw [refsOf_of_held held]
    exact (Rail.made_of_ofSection single).1.handles

/-- After any run, an endstop stops the steppers of its own rail and of the partners
of its rail, each rail once. -/
theorem stops_run {sections : List (Char × RailSection α)} {bank : RailBank α}
    (made : ofSections sections = .ok bank) (requests : List (RailRequest α)) {number : Nat}
    {rail : Rail α} (held : (bank.run requests)[number]? = some rail) :
    rail.endstop.stops =
      (number :: RailRequest.partners number requests).flatMap bank.refsOf := by
  have placed := placedByNumber_of_ofSections made
  rcases bank.getElem?_run requests number with ⟨becomes, performed, sound⟩
  rw [held] at performed
  rcases Option.map_eq_some_iff.mp performed.symm with ⟨before, heldBefore, rfl⟩
  rcases ofSection_of_ofSections made heldBefore with ⟨letter, given, -, single⟩
  rcases Rail.made_of_ofSection single with ⟨madeBefore, alone⟩
  have own : Endstop.addAll ⟨before.name, []⟩ before.refs = ⟨before.name, before.refs⟩ :=
    Endstop.addAll_of_nodup _ _ madeBefore.nodup
  have joined : requests.flatMap (bank.joining number) =
      (requests.filterMap (·.partner? number)).flatMap bank.refsOf := by
    rw [List.filterMap_eq_flatMap_toList, List.flatMap_assoc]
    rfl
  have endstop := calc
    (becomes before).endstop = before.endstop.addAll (requests.flatMap (bank.joining number)) :=
      (sound before).2
    _ = Endstop.addAll ⟨before.name, []⟩
          ((number :: requests.filterMap (·.partner? number)).flatMap bank.refsOf) := by
      rw [joined, List.flatMap_cons, Endstop.addAll_append, refsOf_of_held heldBefore, own]
      exact congrArg (Endstop.addAll · _) alone
    _ = ⟨before.name, (number :: RailRequest.partners number requests).flatMap bank.refsOf⟩ := by
      rw [Endstop.addAll_flatMap placed, RailRequest.cons_partners]
  exact congrArg Endstop.stops endstop

/-- After any run, an endstop stops a stepper of another rail exactly if the two rails
were coupled themselves. -/
theorem holds_run_iff {sections : List (Char × RailSection α)} {bank : RailBank α}
    (made : ofSections sections = .ok bank) (requests : List (RailRequest α)) {number other : Nat}
    {rail : Rail α} (held : (bank.run requests)[number]? = some rail) {ref : StepperRef}
    (listed : ref ∈ bank.refsOf other) :
    rail.endstop.holds ref = true ↔ other = number ∨
      .couple number other ∈ requests ∨ .couple other number ∈ requests := by
  rw [Endstop.holds_eq_true_iff, stops_run made requests held,
    (placedByNumber_of_ofSections made).handle_mem_iff listed, RailRequest.mem_cons_partners_iff]

/-! ## Couplings -/

/-- Which of two rails is named first makes no difference to a coupling. -/
theorem value_couple_comm (bank : RailBank α) (first second : Nat) :
    (bank.couple first second).value = (bank.couple second first).value := by
  ext1 number
  rw [getElem?_couple, getElem?_couple]
  apply Option.map_congr
  intro rail _
  rw [changed, changed, joining_couple_comm]

/-- Coupling changes nothing if all that it adds is held already. -/
theorem value_couple_of_held {bank : RailBank α} {first second : Nat}
    (held : ∀ number rail, bank[number]? = some rail →
      ∀ ref ∈ bank.joining number (.couple first second), rail.endstop.holds ref = true) :
    (bank.couple first second).value = bank := by
  ext1 number
  rw [getElem?_couple]
  cases present : bank[number]? with
  | none => rfl
  | some rail =>
    rw [Option.map_some, changed, Endstop.addAll_of_held _ _ (held number rail present)]

/-- After any run of requests to rails that were made from sections, the steppers of
each rail are those that it was made with, and its endstop stops exactly those and the
ones of each rail that it was coupled with, none twice: first its own, then those of
its partners in the order of their first coupling.  What a partner was coupled with is
not among them.  It does not matter which rail of a coupling is named first, and a
coupling that is repeated changes nothing. -/
theorem coupling_of_run (sections : List (Char × RailSection α)) (bank : RailBank α)
    (made : ofSections sections = .ok bank) (requests : List (RailRequest α)) :
    let after := bank.run requests
    after.map Rail.refs = bank.map Rail.refs ∧
    (∀ number rail, after[number]? = some rail →
      rail.endstop.stops =
        rail.refs ++ (RailRequest.partners number requests).flatMap after.refsOf ∧
      (rail.endstop.stops.map StepperRef.handle).Nodup ∧
      ∀ other otherRail, after[other]? = some otherRail → ∀ ref ∈ otherRail.refs,
        (rail.endstop.holds ref = true ↔ other = number ∨
          .couple number other ∈ requests ∨ .couple other number ∈ requests)) ∧
    ∀ first second,
      (after.perform (.couple first second)).value =
        (after.perform (.couple second first)).value ∧
      (.couple first second ∈ requests →
        (after.perform (.couple first second)).value = after) := by
  intro after
  have kept : after.refsOf = bank.refsOf := bank.refsOf_run requests
  refine ⟨bank.refs_run requests, ?_, ?_⟩
  · intro number rail held
    have stops := stops_run made requests held
    have own : bank.refsOf number = rail.refs := by
      rw [← kept]
      exact refsOf_of_held held
    refine ⟨?_, ?_, ?_⟩
    · rw [stops, List.flatMap_cons, own, kept]
    · rw [stops, RailRequest.cons_partners]
      exact (placedByNumber_of_ofSections made).nodup_flatMap (nodup_eraseDups _)
    · intro other otherRail otherHeld ref listed
      rw [← refsOf_of_held otherHeld, kept] at listed
      exact holds_run_iff made requests held listed
  · intro first second
    refine ⟨after.value_couple_comm first second, ?_⟩
    intro coupledBefore
    apply value_couple_of_held
    intro number rail held ref joins
    rcases List.mem_flatMap.mp joins with ⟨other, partner, listed⟩
    rw [kept] at listed
    apply (holds_run_iff made requests held listed).mpr
    rcases RailRequest.partner?_eq_some_iff.mp (Option.mem_toList.mp partner) with same | same
    · exact .inr (.inl (same ▸ coupledBefore))
    · exact .inr (.inr (same ▸ coupledBefore))

/-- Sections of three rails with steppers of the same name. -/
def alikeSections : List (Char × RailSection Float) :=
  [('X', ⟨["motor", "motor"], 0.0, 200.0, 0.0, none⟩), ('Y', ⟨["motor"], 0.0, 200.0, 0.0, none⟩),
    ('Z', ⟨["motor"], 0.0, 100.0, 0.0, none⟩)]

/-- Requests that couple the first rail with the second and the second with the third. -/
def couplingInChain : List (RailRequest Float) :=
  [.couple 0 1, .moveTo 1 ⟨1.0, 2.0, 3.0⟩, .couple 2 1]

theorem coupling_of_run_chain : ∃ bank first third,
    ofSections alikeSections = .ok bank ∧ (bank.run couplingInChain)[0]? = some first ∧
      (bank.run couplingInChain)[2]? = some third ∧
      first.endstop.stops = first.refs ++ bank.refsOf 1 ∧
      (∀ ref ∈ third.refs, ¬ first.endstop.holds ref = true) ∧
      ((bank.run couplingInChain).perform (.couple 0 1)).value = bank.run couplingInChain := by
  have made : ∃ bank, ofSections alikeSections = .ok bank ∧
      ∃ first third, (bank.run couplingInChain)[0]? = some first ∧
        (bank.run couplingInChain)[2]? = some third := ⟨_, rfl, _, _, rfl, rfl⟩
  rcases made with ⟨bank, made, first, third, heldFirst, heldThird⟩
  rcases coupling_of_run alikeSections bank made couplingInChain with ⟨-, rails, couplings⟩
  rcases rails 0 first heldFirst with ⟨stops, -, holds⟩
  have partners : RailRequest.partners 0 couplingInChain = [1] := by decide
  have uncoupled : ¬ (2 = 0 ∨ RailRequest.couple 0 2 ∈ couplingInChain ∨
      RailRequest.couple 2 0 ∈ couplingInChain) := by
    simp [couplingInChain]
  refine ⟨bank, first, third, made, heldFirst, heldThird, ?_, ?_, ?_⟩
  · rw [stops, partners, refsOf_run]
    exact congrArg (first.refs ++ ·) (List.flatMap_singleton ..)
  · intro ref listed held
    exact uncoupled ((holds 2 third heldThird ref listed).mp held)
  · exact (couplings 0 1).2 (by simp [couplingInChain])

end RailBank

end BeltGantry

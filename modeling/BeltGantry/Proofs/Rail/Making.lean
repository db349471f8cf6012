import Mathlib.Data.List.Nodup
import BeltGantry.Rail
namespace BeltGantry

/-!
# Rails as they are made

A rail comes out of its section with a stepper for each listed name, or a single
one of its own name, and with an endstop that stops each of them once.  The
names may repeat; what tells the steppers apart are their handles, which count
the places on the rail.  Binding and attaching change every stepper of the rail
alike, so the steppers of a rail in use are its references, all with one binding
and one queue.

Coupling makes the endstop of a rail stop the steppers of another one too.  An
endstop refuses a handle that it holds already, so this is plain concatenation
only because rails of different numbers have no handle in common.
-/

/-! ## Handles -/

/-- References to steppers of the given names in their places on a rail. -/
def numberedRefs (number : Nat) (names : List String) : List StepperRef :=
  names.zipIdx.map fun (name, place) => ⟨⟨number, place⟩, name⟩

theorem map_name_numberedRefs (number : Nat) (names : List String) :
    (numberedRefs number names).map StepperRef.name = names := by
  unfold numberedRefs
  rw [List.map_map]
  exact List.zipIdx_map_fst 0 names

/-- The handles of the first places on a rail. -/
def placesOn (number count : Nat) : List StepperHandle :=
  (List.range count).map fun place => ⟨number, place⟩

theorem map_handle_numberedRefs (number : Nat) (names : List String) :
    (numberedRefs number names).map StepperRef.handle =
      placesOn number (numberedRefs number names).length := by
  unfold numberedRefs placesOn
  rw [List.map_map, List.length_map, List.length_zipIdx, List.range_eq_range',
    ← List.zipIdx_map_snd 0 names, List.map_map]
  rfl

theorem nodup_placesOn (number count : Nat) : (placesOn number count).Nodup := by
  apply List.Nodup.map
  · intro first second same
    exact (StepperHandle.mk.inj same).2
  · exact List.nodup_range

theorem rail_of_mem_placesOn {number count : Nat} {handle : StepperHandle}
    (listed : handle ∈ placesOn number count) : handle.rail = number := by
  rcases List.mem_map.mp listed with ⟨place, -, rfl⟩
  rfl

/-! ## Endstops -/

namespace Endstop

theorem holds_eq_true_iff {endstop : Endstop} {stepper : StepperRef} :
    endstop.holds stepper = true ↔
      stepper.handle ∈ endstop.stops.map StepperRef.handle := by
  simp [holds]

/-- Steppers with new handles are all taken in, in order. -/
theorem addAll_of_nodup (endstop : Endstop) (steppers : List StepperRef)
    (distinct : ((endstop.stops ++ steppers).map StepperRef.handle).Nodup) :
    endstop.addAll steppers = { endstop with stops := endstop.stops ++ steppers } := by
  induction steppers generalizing endstop with
  | nil => simp [addAll]
  | cons first rest inductionHypothesis =>
    have unheld : endstop.holds first = false := by
      rw [Bool.eq_false_iff, ne_eq, holds_eq_true_iff]
      intro held
      rw [List.map_append, List.map_cons] at distinct
      exact List.disjoint_of_nodup_append distinct held List.mem_cons_self
    have added : endstop.add first = { endstop with stops := endstop.stops ++ [first] } := by
      simp [add, unheld]
    have regrouped : endstop.stops ++ first :: rest = endstop.stops ++ [first] ++ rest := by simp
    change (endstop.add first).addAll rest = _
    rw [added, regrouped]
    apply inductionHypothesis
    rwa [regrouped] at distinct

end Endstop

/-! ## Rails -/

/-- Names of the steppers of a rail: the listed ones, or else that of the rail. -/
def RailSection.stepperNames {α : Type} (given : RailSection α) (rail : String) : List String :=
  if given.steppers = [] then [rail] else given.steppers

theorem RailSection.stepperNames_ne_nil {α : Type} (given : RailSection α) (rail : String) :
    given.stepperNames rail ≠ [] := by
  unfold stepperNames
  by_cases unnamed : given.steppers = [] <;> simp [unnamed]

/-- The check of a section ends by finding its direction. -/
theorem RailSection.exists_homingDirection {α : Type} [Scalar α] {given : RailSection α}
    (valid : given.validate = .ok ()) : ∃ positiveDir, given.homingDirection = .ok positiveDir := by
  unfold validate at valid
  cases directed : given.homingDirection with
  | ok positiveDir => exact ⟨positiveDir, rfl⟩
  | error cause =>
    rw [directed] at valid
    split at valid
    · cases valid
    · split at valid <;> cases valid

namespace Rail

section

variable {α : Type}

@[simp] theorem refs_bind (rail : Rail α) (binding : Binding) :
    (rail.bind binding).refs = rail.refs := by
  simp [refs, bind, Stepper.bind]

@[simp] theorem refs_attach (rail : Rail α) (queue : MotionQueue) :
    (rail.attach queue).refs = rail.refs := by
  simp [refs, attach, Stepper.attach]

/-- The endstop of a rail stops exactly these steppers. -/
def Stops (rail : Rail α) (steppers : List StepperRef) : Prop :=
  rail.endstop = ⟨rail.name, steppers⟩

/-- Binding and attaching a rail leaves its endstop alone. -/
theorem Stops.equip {rail : Rail α} {steppers : List StepperRef} (stops : rail.Stops steppers)
    (binding : Binding) (queue : MotionQueue) :
    ((rail.bind binding).attach queue).Stops steppers := stops

end

variable {α : Type} [Scalar α]

/-- A rail with the measures of a section that passed its checks, and steppers
to drive it. -/
structure MadeFrom (rail : Rail α) (given : RailSection α) : Prop where
  valid : given.validate = .ok ()
  positionMin : rail.positionMin = given.positionMin
  positionMax : rail.positionMax = given.positionMax
  positionEndstop : rail.positionEndstop = given.positionEndstop
  driven : rail.steppers ≠ []

/-- What a rail of a number is that was made from the section of a letter, with
the binding and the queue of all its steppers.  Its endstop is left open. -/
structure Made (rail : Rail α) (number : Nat) (letter : Char) (given : RailSection α)
    (binding : Option Binding) (queue : Option MotionQueue) : Prop
    extends rail.MadeFrom given where
  name : rail.name = railName letter.toString
  direction : given.homingDirection = .ok rail.positiveDir
  names : rail.refs.map StepperRef.name = given.stepperNames rail.name
  handles : rail.refs.map StepperRef.handle = placesOn number rail.refs.length
  bound : rail.binding = binding
  steppers : rail.steppers = rail.refs.map fun ref => ⟨ref, binding, queue, 0.0⟩

variable {rail : Rail α} {number : Nat} {letter : Char} {given : RailSection α}
  {binding : Option Binding} {queue : Option MotionQueue}

/-- A section that is in order has a direction, and makes a rail. -/
theorem exists_ofSection (number : Nat) (letter : Char) (given : RailSection α)
    (valid : given.validate = .ok ()) : ∃ rail, ofSection number letter given = .ok rail := by
  rcases RailSection.exists_homingDirection valid with ⟨positiveDir, directed⟩
  unfold ofSection
  rw [valid, directed]
  exact ⟨_, rfl⟩

/-- A rail is refused exactly with its section, for the cause that the section has. -/
theorem ofSection_eq_error_iff {fault : Invalid α} :
    ofSection number letter given = .error fault ↔ ∃ cause, given.validate = .error cause ∧
      fault = .inSection (railName letter.toString) cause := by
  unfold ofSection
  cases valid : given.validate with
  | error cause => simp [eq_comm]
  | ok _ =>
    rcases RailSection.exists_homingDirection valid with ⟨positiveDir, directed⟩
    simp [directed]

/-- A section that is in order makes a rail of its references. -/
theorem eq_of_ofSection (found : ofSection number letter given = .ok rail) :
    ∃ positiveDir refs, given.validate = .ok () ∧ given.homingDirection = .ok positiveDir ∧
      refs = numberedRefs number (given.stepperNames (railName letter.toString)) ∧
      rail = ⟨railName letter.toString, given.positionMin, given.positionMax,
        given.positionEndstop, positiveDir,
        Endstop.addAll ⟨railName letter.toString, []⟩ refs, refs.map Stepper.fresh, none⟩ := by
  unfold ofSection at found
  cases checked : given.validate with
  | error cause => simp [checked] at found
  | ok _ =>
    cases directed : given.homingDirection with
    | error cause => simp [checked, directed] at found
    | ok positiveDir =>
      simp only [checked, directed, Except.ok.injEq] at found
      exact ⟨positiveDir, _, rfl, rfl, rfl, found.symm⟩

/-- A rail comes out of its section without binding and queue, and its endstop
stops its own steppers. -/
theorem made_of_ofSection (found : ofSection number letter given = .ok rail) :
    rail.Made number letter given none none ∧ rail.Stops rail.refs := by
  rcases eq_of_ofSection found with ⟨positiveDir, refs, checked, directed, numbered, same⟩
  have listed : rail.refs = refs := by
    rw [same, Rail.refs, List.map_map]
    exact List.map_id refs
  have handles : rail.refs.map StepperRef.handle = placesOn number rail.refs.length := by
    rw [listed, numbered]
    exact map_handle_numberedRefs number _
  have names : rail.refs.map StepperRef.name = given.stepperNames rail.name := by
    rw [listed, numbered, map_name_numberedRefs, same]
  have driven : rail.steppers ≠ [] := by
    intro undriven
    rw [Rail.refs, undriven] at names
    exact given.stepperNames_ne_nil rail.name names.symm
  rw [← listed] at same
  constructor
  · have madeFrom : rail.MadeFrom given := ⟨checked, congrArg Rail.positionMin same,
      congrArg Rail.positionMax same, congrArg Rail.positionEndstop same, driven⟩
    refine ⟨madeFrom, congrArg Rail.name same, ?_, names, handles, congrArg Rail.binding same,
      congrArg Rail.steppers same⟩
    rw [directed]
    exact congrArg Except.ok (congrArg Rail.positiveDir same).symm
  · have distinct : (rail.refs.map StepperRef.handle).Nodup := by
      rw [handles]
      exact nodup_placesOn _ _
    have added := Endstop.addAll_of_nodup ⟨rail.name, []⟩ rail.refs distinct
    rw [List.nil_append, congrArg Rail.name same] at added
    rw [Stops, congrArg Rail.name same, ← added]
    exact congrArg Rail.endstop same

namespace Made

theorem nodup (made : rail.Made number letter given binding queue) :
    (rail.refs.map StepperRef.handle).Nodup := by
  rw [made.handles]
  exact nodup_placesOn _ _

/-- The handles of a rail carry its number. -/
theorem rail_of_mem (made : rail.Made number letter given binding queue)
    {handle : StepperHandle} (listed : handle ∈ rail.refs.map StepperRef.handle) :
    handle.rail = number := by
  rw [made.handles] at listed
  exact rail_of_mem_placesOn listed

theorem coupledTo (made : rail.Made number letter given binding queue) (other : Rail α) :
    (rail.coupledTo other).Made number letter given binding queue :=
  { made with }

/-- Binding and attaching a new rail changes all of its steppers and nothing else. -/
theorem equip (made : rail.Made number letter given none none) (binding : Binding)
    (queue : MotionQueue) :
    ((rail.bind binding).attach queue).Made number letter given (some binding) (some queue) := by
  have kept : ((rail.bind binding).attach queue).refs = rail.refs := by simp
  have steppers : ((rail.bind binding).attach queue).steppers =
      rail.refs.map fun ref => ⟨ref, some binding, some queue, 0.0⟩ := by
    simp only [Rail.bind, Rail.attach, List.map_map]
    rw [made.steppers, List.map_map]
    rfl
  rw [← kept] at steppers
  refine ⟨⟨made.valid, made.positionMin, made.positionMax, made.positionEndstop, ?_⟩,
    made.name, made.direction, ?_, ?_, rfl, steppers⟩
  · simpa [Rail.bind, Rail.attach] using made.driven
  · rw [kept]
    exact made.names
  · rw [kept]
    exact made.handles

section

variable {other : Rail α} {otherNumber : Nat} {otherLetter : Char}
  {otherGiven : RailSection α} {otherBinding : Option Binding}
  {otherQueue : Option MotionQueue}

theorem disjoint (made : rail.Made number letter given binding queue)
    (otherMade : other.Made otherNumber otherLetter otherGiven otherBinding otherQueue)
    (apart : number ≠ otherNumber) :
    List.Disjoint (rail.refs.map StepperRef.handle) (other.refs.map StepperRef.handle) := by
  intro handle here there
  apply apart
  rw [← made.rail_of_mem here, otherMade.rail_of_mem there]

theorem nodup_append (made : rail.Made number letter given binding queue)
    (otherMade : other.Made otherNumber otherLetter otherGiven otherBinding otherQueue)
    (apart : number ≠ otherNumber) :
    ((rail.refs ++ other.refs).map StepperRef.handle).Nodup := by
  rw [List.map_append]
  exact List.Nodup.append made.nodup otherMade.nodup (made.disjoint otherMade apart)

/-- Coupled to a rail of another number, a rail stops its own steppers and those of
the other. -/
theorem stops_coupledTo (made : rail.Made number letter given binding queue)
    (otherMade : other.Made otherNumber otherLetter otherGiven otherBinding otherQueue)
    (apart : number ≠ otherNumber) (alone : rail.Stops rail.refs) :
    (rail.coupledTo other).Stops (rail.refs ++ other.refs) := by
  change rail.endstop.addAll other.refs = _
  rw [alone]
  exact Endstop.addAll_of_nodup _ _ (made.nodup_append otherMade apart)

end

end Made

end Rail

end BeltGantry

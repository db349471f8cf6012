import BeltGantry.Rail
namespace BeltGantry

/-!
# A bank of rails

Rails addressed by their place in a list, and the requests that change them one
at a time: binding a rail or a single stepper, attaching a stepper to a queue,
pushing a coordinate to a rail, and coupling two rails.  A request that names no
rail of the bank changes nothing.
-/

abbrev RailBank (α : Type) := List (Rail α)

/-- A request to a bank of rails. -/
inductive RailRequest (α : Type) where
  | bind (rail : Nat) (binding : Binding)
  | bindStepper (rail place : Nat) (binding : Binding)
  | attachStepper (rail place : Nat) (queue : MotionQueue)
  | moveTo (rail : Nat) (coordinate : Point α)
  | couple (first second : Nat)

namespace RailBank

variable {α : Type} [Scalar α]

/-- The rails of a list of letters and sections, numbered in order. -/
def ofSections (sections : List (Char × RailSection α)) :
    Except (Invalid α) (RailBank α) :=
  go 0 sections
where
  go : Nat → List (Char × RailSection α) → Except (Invalid α) (RailBank α)
    | _, [] => .ok []
    | number, (letter, given) :: rest =>
      match Rail.ofSection number letter given with
      | .error cause => .error cause
      | .ok rail =>
        match go (number + 1) rest with
        | .error cause => .error cause
        | .ok rails => .ok (rail :: rails)

/-- Couple two rails of the bank.  Both endstops grow by the steppers that the
other rail has on its own. -/
def couple (bank : RailBank α) (first second : Nat) : Told α (RailBank α) :=
  match bank[first]?, bank[second]? with
  | some a, some b =>
    let coupledA := a.coupledTo b
    let coupledB := b.coupledTo a
    ⟨(bank.set first coupledA).set second coupledB, [couplingNotice coupledA coupledB]⟩
  | _, _ => pure bank

/-- Carry out one request. -/
def perform (bank : RailBank α) : RailRequest α → Told α (RailBank α)
  | .bind rail binding =>
    ⟨bank.modify rail (·.bind binding),
      (bank[rail]?.map fun rail => Notice.railBound rail.name binding).toList⟩
  | .bindStepper rail place binding =>
    pure (bank.modify rail (·.modifyStepper place (·.bind binding)))
  | .attachStepper rail place queue =>
    pure (bank.modify rail (·.modifyStepper place (·.attach queue)))
  | .moveTo rail coordinate =>
    ⟨bank.modify rail (·.moveTo coordinate), (bank[rail]?.toList).flatMap Rail.moveNotices⟩
  | .couple first second => bank.couple first second

end RailBank

end BeltGantry

import BeltGantry.Text.Listing
namespace BeltGantry

/-!
# Machine events

Parts of a machine subscribe to events by leaving a key of their own; when the
event occurs, each subscriber is served in the order of subscription.
-/

inductive MachineEvent where
  /-- All motors lost power, so no position is known any more. -/
  | motorsOff
  deriving DecidableEq, Repr

def MachineEvent.name : MachineEvent → String
  | motorsOff => "stepper_enable:motor_off"

/-- Subscriptions in the order in which they were made. -/
structure EventBus (κ : Type) where
  subscriptions : List (MachineEvent × κ) := []

namespace EventBus

variable {κ : Type}

def subscribe (bus : EventBus κ) (event : MachineEvent) (key : κ) : EventBus κ :=
  ⟨bus.subscriptions ++ [(event, key)]⟩

/-- Keys of those who subscribed to an event, in order. -/
def subscribers (bus : EventBus κ) (event : MachineEvent) : List κ :=
  (bus.subscriptions.filter (·.1 = event)).map (·.2)

/-- The bus in words: the name of the event of each subscription, in order. -/
def description (bus : EventBus κ) : String :=
  let names := bus.subscriptions.map fun (event, _) => "\"" ++ event.name ++ "\""
  "SimEventBus \x7b handlers: " ++ Text.listing names ++ " \x7d"

@[simp] theorem subscribers_empty (event : MachineEvent) :
    ({} : EventBus κ).subscribers event = [] := rfl

@[simp] theorem subscribers_subscribe (bus : EventBus κ) (event : MachineEvent) (key : κ) :
    (bus.subscribe event key).subscribers event = bus.subscribers event ++ [key] := by
  simp [subscribers, subscribe]

end EventBus

end BeltGantry

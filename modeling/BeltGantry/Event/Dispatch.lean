import BeltGantry.Notice
namespace BeltGantry

/-!
# Serving the subscribers of an event

Every subscriber is served once, in order; the event is noted as fired after
the last of them.
-/

namespace EventBus

variable {α κ σ : Type}

/-- Serve a list of subscribers one after the other. -/
def serveAll (serve : σ → κ → Told α σ) : List κ → σ → Told α σ
  | [], state => pure state
  | key :: rest, state => do
    let next ← serve state key
    serveAll serve rest next

/-- Let an event happen: the state after all subscribers, and their number. -/
def fire (bus : EventBus κ) (event : MachineEvent) (serve : σ → κ → Told α σ) (state : σ) :
    Told α (σ × Nat) := do
  let served := bus.subscribers event
  let after ← serveAll serve served state
  Noted.note (.eventFired event served.length)
  return (after, served.length)

end EventBus

end BeltGantry

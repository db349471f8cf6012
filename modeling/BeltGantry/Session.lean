import BeltGantry.Event.Dispatch
import BeltGantry.Gantry.Build
import BeltGantry.Homing.Simulated
namespace BeltGantry

/-!
# Sessions

Several gantries on one toolhead and one event bus.  They are built one after
the other, each from a machine file, and each that is built subscribes to the
event that all motors lost power.  A gantry that could not be built keeps its
number, and requests to it are answered by `absent`.  The state of a session
changes by requests alone; each of them is answered.
-/

/-- A session on one toolhead. -/
structure Session (α : Type) where
  toolhead : Toolhead α
  /-- Subscribers are the numbers of gantries. -/
  bus : EventBus Nat := {}
  /-- The gantries by number, nothing in the place of one that failed. -/
  gantries : List (Option (Gantry α)) := []

/-- What is asked of one gantry. -/
inductive Operation (α : Type) where
  | setPosition (position : Point α) (axes : List Nat)
  /-- Without measurements, the commanded positions of the rails are used. -/
  | calcPosition (measured : Option (List (String × α)))
  | forgetThird
  | forgetAxis (axis : Nat)
  | setLimit (slot : Slot) (limit : Limit α)
  /-- Home with a simulated host, and if wanted set the position that results,
  whether homing succeeded or not.  Nothing is set when homing ends the program. -/
  | home (homing : SimulatedHoming α) (apply : Bool)
  | checkMove (move : Move α)
  | status (time : α)

/-- What is asked of a session. -/
inductive Request (α : Type) where
  | build (machine : Machine α) (letters : String) (indices : List Nat)
      (queue : Option MotionQueue)
  | operate (gantry : Nat) (operation : Operation α)
  | motorsOff (time : α)

/-- The outcome of homing with a simulated host. -/
structure HomingReport (α : Type) where
  result : Except (Fault α) Unit
  homing : SimulatedHoming α
  /-- Where the recorded moves lead to. -/
  finalPosition : Point α
  /-- The outcome of setting the final position, if that was wanted and came about. -/
  applied : Option (Except (Fault α) Unit)

/-- The answer to a request. -/
inductive Reply (α : Type) where
  | built (result : Except (Fault α) (Gantry α))
  | done (result : Except (Fault α) Unit)
  | located (result : Except (Fault α) (Point α))
  | homed (report : HomingReport α)
  | checked (result : Except (Fault α) Unit) (move : Move α)
  | status (status : Status α)
  | served (count : Nat)
  | absent

variable {α : Type} [Scalar α]

namespace Gantry

/-- Home with a simulated host and set the resulting position if wanted, unless homing
ends the program. -/
def homeSimulated (gantry : Gantry α) (homing : SimulatedHoming α) (apply : Bool) :
    Told α (HomingReport α × Gantry α) := do
  let (result, after) ← gantry.home SimulatedHoming.host homing
  let final := after.finalPosition gantry.axisSet.triplet
  if apply && !Fault.endsProgram result then
    let (applied, moved) ← gantry.setPosition final after.homedAxes
    return (⟨result, after, final, some applied⟩, moved)
  else return (⟨result, after, final, none⟩, gantry)

/-- Carry out an operation on a gantry. -/
def perform (gantry : Gantry α) : Operation α → Told α (Reply α × Gantry α)
  | .setPosition position axes => do
    let (result, after) ← gantry.setPosition position axes
    return (.done result, after)
  | .calcPosition measured =>
    let positions := match measured with
      | some given => fun name => given.lookup name
      | none => gantry.ownPositions
    pure (.located (gantry.calcPosition positions), gantry)
  | .forgetThird => do
    let after ← gantry.forgetThird
    return (.done (.ok ()), after)
  | .forgetAxis axis => do
    let (result, after) ← gantry.forgetAxis axis
    return (.done result, after)
  | .setLimit slot limit => do
    let after ← gantry.setLimit slot limit
    return (.done (.ok ()), after)
  | .home homing apply => do
    let (report, after) ← gantry.homeSimulated homing apply
    return (.homed report, after)
  | .checkMove move => do
    let (result, checked) ← gantry.checkMove move
    return (.checked result checked, gantry)
  | .status time => do
    let status ← gantry.status time
    return (.status status, gantry)

end Gantry

namespace Session

/-- A session without gantries. -/
def start (toolhead : Toolhead α) : Session α := { toolhead := toolhead }

/-- The gantry of a number, if it was built. -/
def gantry? (session : Session α) (number : Nat) : Option (Gantry α) :=
  session.gantries[number]?.join

/-- Tell one gantry that the motors lost power. -/
def serveMotorsOff (time : α) (gantries : List (Option (Gantry α))) (number : Nat) :
    Told α (List (Option (Gantry α))) :=
  match gantries[number]?.join with
  | none => pure gantries
  | some gantry => do
    let after ← gantry.motorsOff time
    return gantries.set number (some after)

/-- Build a gantry; only one that succeeds subscribes to the loss of power. -/
def build (session : Session α) (machine : Machine α) (letters : String) (indices : List Nat)
    (queue : Option MotionQueue) : Told α (Reply α × Session α) := do
  let number := session.gantries.length
  let (result, toolhead) ← Gantry.build session.toolhead machine number queue letters indices
  match result with
  | .error fault =>
    return (.built (.error fault),
      { session with toolhead := toolhead, gantries := session.gantries ++ [none] })
  | .ok gantry =>
    return (.built (.ok gantry),
      { session with
        toolhead := toolhead
        bus := session.bus.subscribe .motorsOff number
        gantries := session.gantries ++ [some gantry] })

/-- Carry out a request. -/
def perform (session : Session α) : Request α → Told α (Reply α × Session α)
  | .build machine letters indices queue => session.build machine letters indices queue
  | .operate number operation =>
    match session.gantry? number with
    | none => pure (.absent, session)
    | some gantry => do
      let (reply, after) ← gantry.perform operation
      return (reply, { session with gantries := session.gantries.set number (some after) })
  | .motorsOff time => do
    let (gantries, count) ← session.bus.fire .motorsOff (serveMotorsOff time) session.gantries
    return (.served count, { session with gantries := gantries })

/-- The session after a list of requests. -/
def run (session : Session α) (requests : List (Request α)) : Session α :=
  requests.foldl (fun session request => (session.perform request).value.2) session

end Session

end BeltGantry

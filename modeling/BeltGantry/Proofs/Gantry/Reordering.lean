import BeltGantry.Proofs.Axis.Arrangement
import BeltGantry.Proofs.Gantry.Furnishing
import BeltGantry.Proofs.Gantry.Relabeling
namespace BeltGantry

/-!
# The order of configuration

A gantry lists its axes in the order in which they were given, and without a given
queue the toolhead names one after the letters in that order.  Nothing else depends
on the order, and both are labels.

Two gantries are alike if they have the same layout and are the same otherwise, apart
from what is hidden of their rails.  If the queue was given, nothing has to be
hidden; if not, the queues of steppers have to.  Alike gantries answer alike and stay
alike, and inputs with the same pairs build alike gantries.
-/

variable {α : Type}

/-! ## Queues -/

def Stepper.detach (stepper : Stepper α) : Stepper α := { stepper with queue := none }

theorem Stepper.moveTo_detach [Scalar α] (stepper : Stepper α) (coordinate : Point α) :
    stepper.detach.moveTo coordinate = (stepper.moveTo coordinate).detach := by
  rcases stepper with ⟨ref, binding, queue, position⟩
  cases binding <;> rfl

namespace Rail

/-- The rail with its steppers on no queue. -/
def detach (rail : Rail α) : Rail α := { rail with steppers := rail.steppers.map Stepper.detach }

theorem detach_attach (rail : Rail α) (queue : MotionQueue) :
    (rail.attach queue).detach = rail.detach := by
  unfold detach attach
  rw [List.map_map]
  rfl

theorem attach_attach (rail : Rail α) (before queue : MotionQueue) :
    (rail.attach before).attach queue = rail.attach queue := by
  unfold attach
  rw [List.map_map]
  rfl

/-- The rail without what the order of configuration may show in: all of it stays if the
queue was given, and the steppers lose their queues if the toolhead named it. -/
def hidden : Option MotionQueue → Rail α → Rail α
  | some _ => id
  | none => detach

variable [Scalar α]

theorem inert_id : Inert (id : Rail α → Rail α) where
  name := fun _ => rfl
  positionMin := fun _ => rfl
  positionMax := fun _ => rfl
  positionEndstop := fun _ => rfl
  positiveDir := fun _ => rfl
  position := fun _ => rfl
  moveTo := fun _ _ => rfl

theorem inert_detach : Inert (detach : Rail α → Rail α) :=
  inert_of_steppers id (fun _ => rfl) Stepper.moveTo_detach

theorem inert_hidden (queue : Option MotionQueue) : Inert (hidden queue : Rail α → Rail α) := by
  cases queue with
  | none => exact inert_detach
  | some given => exact inert_id

end Rail

/-- Nothing is hidden from any host if the queue was given. -/
theorem HomingHost.blindTo_hidden {σ : Type} (host : HomingHost α σ) {queue : Option MotionQueue}
    (unseen : queue.isSome ∨ host.BlindTo Rail.detach) : host.BlindTo (Rail.hidden queue) := by
  cases queue with
  | none => exact unseen.resolve_left nofun
  | some given =>
    intro state rails move
    change host.homeRails state (rails.map id) move = _
    rw [List.map_id]

/-! ## Alike gantries -/

namespace Gantry

/-- The same apart from the order in which axes are listed, the name of the queue, and
what is hidden of the rails. -/
structure Alike (hide : Rail α → Rail α) (first second : Gantry α) : Prop where
  layout : first.axisSet.SameLayout second.axisSet
  rails : second.rails.map (Option.map hide) = first.rails.map (Option.map hide)
  caps : second.caps = first.caps
  axisCount : second.axisCount = first.axisCount
  limits : second.limits = first.limits
  position : second.position = first.position

namespace Alike

variable {hide : Rail α → Rail α} {first second : Gantry α}

theorem refl (hide : Rail α → Rail α) (gantry : Gantry α) : gantry.Alike hide gantry where
  layout := .refl gantry.axisSet
  rails := rfl
  caps := rfl
  axisCount := rfl
  limits := rfl
  position := rfl

variable [Scalar α] (inert : Rail.Inert hide)

/-- The relabeling that lists axes as a given set does and hides what is to be hidden. -/
def concealing (set : AxisSet) : Relabeling α := ⟨fun _ => set, fun _ => "", hide, inert⟩

theorem iff_relabel_eq (set : AxisSet) :
    first.Alike hide second ↔ first.axisSet.SameLayout second.axisSet ∧
      second.relabel (concealing inert set) = first.relabel (concealing inert set) := by
  unfold relabel concealing
  rw [Gantry.mk.injEq]
  constructor
  · rintro ⟨layout, rails, caps, axisCount, limits, position⟩
    exact ⟨layout, rfl, rails, rfl, caps, axisCount, limits, position⟩
  · rintro ⟨layout, -, rails, -, caps, axisCount, limits, position⟩
    exact ⟨layout, rails, caps, axisCount, limits, position⟩

variable (alike : first.Alike hide second)

include alike

theorem motorsOff (time : α) :
    (first.motorsOff time).value.Alike hide (second.motorsOff time).value where
  layout := alike.layout
  rails := alike.rails
  caps := alike.caps
  axisCount := alike.axisCount
  limits := rfl
  position := alike.position

include inert

/-- Alike gantries answer every operation alike and stay alike. -/
theorem perform (operation : Operation α) :
    (second.perform operation).value.1 = (first.perform operation).value.1 ∧
      (first.perform operation).value.2.Alike hide (second.perform operation).value.2 := by
  let labels := concealing inert first.axisSet
  rcases (iff_relabel_eq inert first.axisSet).mp alike with ⟨layout, concealed⟩
  have ofFirst := first.perform_relabel labels (.refl first.axisSet) operation
  have ofSecond := second.perform_relabel labels layout.symm operation
  rw [concealed] at ofSecond
  rcases Prod.ext_iff.mp (ofSecond.symm.trans ofFirst) with ⟨replies, states⟩
  refine ⟨replies, (iff_relabel_eq inert first.axisSet).mpr ⟨?_, states⟩⟩
  rw [(first.sameRails_perform operation).axisSet, (second.sameRails_perform operation).axisSet]
  exact layout

/-- Alike gantries home alike, if the host does not look at what is hidden. -/
theorem home {σ : Type} {host : HomingHost α σ} (blind : host.BlindTo hide) (state : σ) :
    second.home host state = first.home host state := by
  let labels := concealing inert first.axisSet
  rcases (iff_relabel_eq inert first.axisSet).mp alike with ⟨layout, concealed⟩
  have ofFirst := first.home_relabel labels (.refl first.axisSet) blind state
  have ofSecond := second.home_relabel labels layout.symm blind state
  rw [concealed] at ofSecond
  exact ofSecond.symm.trans ofFirst

end Alike

end Gantry

/-! ## Building -/

namespace Assembly

theorem couplePair_of_ok {set : AxisSet} {rails coupled : Triplet (Option (Rail α))}
    (pair : couplePair set rails = .ok coupled) (other : AxisSet) :
    couplePair other rails = .ok coupled := by
  rcases eq_of_couplePair pair with ⟨first, second, atX, atY, rfl⟩
  unfold couplePair
  rw [atX, atY]

theorem map_attach_bindRails (before queue : MotionQueue) (rails : Triplet (Option (Rail α))) :
    (bindRails before rails).map (Option.map (·.attach queue)) = bindRails queue rails := by
  ext1 slot
  rw [bindRails, bindRails, Triplet.get_map, Triplet.get_ofSlots, Triplet.get_ofSlots,
    Option.map_map]
  congr 1
  funext rail
  exact Rail.attach_attach _ before queue

/-- The assembly of coupled rails on a queue. -/
def bound (coupled : Triplet (Option (Rail α))) (queue : MotionQueue) : Assembly α :=
  ⟨bindRails queue coupled, queue⟩

/-- The steppers to be registered are those of the coupled rails. -/
theorem refs_bound (coupled : Triplet (Option (Rail α))) (queue : MotionQueue) :
    (bound coupled queue).refs = (coupled.toList.filterMap id).flatMap Rail.refs := by
  rcases coupled with ⟨x, y, z⟩
  unfold refs railList bound
  cases x <;> cases y <;> cases z <;>
    simp [bindRails, Triplet.ofSlots, Triplet.get, Triplet.toList]

theorem checkAxisCount_of_sameLayout {set other : AxisSet} (same : set.SameLayout other)
    (toolhead : Toolhead α) : checkAxisCount toolhead other = checkAxisCount toolhead set := by
  unfold checkAxisCount
  rw [same.number, same.triplet]

variable [Scalar α] {set other : AxisSet} (same : set.SameLayout other)

include same

theorem railAt_of_sameLayout (machine : Machine α) (number : Nat) (slot : Slot) :
    railAt machine number other slot = railAt machine number set slot := by
  unfold railAt
  rw [same.axisAt]

/-- Axis sets of the same layout get the same coupled rails, each bound to a queue of
its own. -/
theorem exists_coupled_of_make {toolhead : Toolhead α} {machine : Machine α} {number : Nat}
    {queue : Option MotionQueue} {assembly : Assembly α}
    (made : make toolhead machine number queue set = .ok assembly) :
    ∃ coupled, assembly = bound coupled (queue.getD (Toolhead.queueFor set.letters)) ∧
      make toolhead machine number queue other =
        .ok (bound coupled (queue.getD (Toolhead.queueFor other.letters))) := by
  rcases make_eq_ok_iff.mp made with ⟨carried, rails, coupled, found, pair, assembled⟩
  refine ⟨coupled, assembled, make_eq_ok_iff.mpr ⟨?_, rails, coupled, ?_, ?_, rfl⟩⟩
  · rw [checkAxisCount_of_sameLayout same, carried]
  · intro slot
    rw [railAt_of_sameLayout same, found slot]
  · exact couplePair_of_ok pair other

/-- If one cannot be assembled, the other cannot be assembled either. -/
theorem exists_cause_of_make {toolhead : Toolhead α} {machine : Machine α} {number : Nat}
    {queue : Option MotionQueue} {cause : Invalid α}
    (refused : make toolhead machine number queue set = .error cause) :
    ∃ otherCause, make toolhead machine number queue other = .error otherCause := by
  cases outcome : make toolhead machine number queue other with
  | error otherCause => exact ⟨otherCause, rfl⟩
  | ok assembly =>
    rcases exists_coupled_of_make same.symm outcome with ⟨coupled, -, impossible⟩
    rw [refused] at impossible
    cases impossible

end Assembly

namespace Gantry

/-- Alike gantries that were built with their axes in different order.  Their rails
differ in the queues of steppers, which are those of their gantries, and the queues
do not differ if they were given. -/
structure Reordered (queue : Option MotionQueue) (first second : Gantry α) : Prop extends
    Alike (Rail.hidden queue) first second where
  attached : second.rails = first.rails.map (Option.map (·.attach second.queue))
  given : queue.isSome → second.queue = first.queue

variable [Scalar α]

theorem reordered_fresh {set other : AxisSet} (same : set.SameLayout other)
    (toolhead : Toolhead α) (coupled : Triplet (Option (Rail α))) (caps : ZCaps α)
    {queue : Option MotionQueue} {served servedOther : MotionQueue}
    (given : queue.isSome → servedOther = served) :
    Reordered queue (fresh toolhead set (.bound coupled served) caps)
      (fresh toolhead other (.bound coupled servedOther) caps) where
  layout := same
  rails := by
    cases queue with
    | some queue =>
      rw [given rfl]
      rfl
    | none =>
      ext1 slot
      simp only [fresh, Assembly.bound, Rail.hidden, Assembly.bindRails, Triplet.get_map,
        Triplet.get_ofSlots, Option.map_map, Function.comp_def, Rail.detach_attach]
  caps := rfl
  axisCount := rfl
  limits := rfl
  position := rfl
  attached := (Assembly.map_attach_bindRails served servedOther coupled).symm
  given := given

/-- Inputs with the same pairs are both refused, or they build alike gantries.  Either
way the toolhead gets the same steppers in the same order. -/
theorem rel_build {letters otherLetters : String} {indices otherIndices : List Nat}
    (same : SamePairs letters indices otherLetters otherIndices) (toolhead : Toolhead α)
    (machine : Machine α) (number : Nat) (queue : Option MotionQueue) :
    let first := (build toolhead machine number queue letters indices).value
    let second := (build toolhead machine number queue otherLetters otherIndices).value
    Option.Rel (Reordered queue) first.1.toOption second.1.toOption ∧ second.2 = first.2 := by
  intro first second
  have firstStages : first = _ := value_build toolhead machine number queue letters indices
  have secondStages : second = _ :=
    value_build toolhead machine number queue otherLetters otherIndices
  rw [firstStages, secondStages]
  cases arranged : AxisSet.arrange letters indices with
  | error fault =>
    rcases same.exists_fault arranged with ⟨otherFault, arrangedOther⟩
    rw [arrangedOther]
    exact ⟨.none, rfl⟩
  | ok set =>
    rcases same.exists_arrange arranged with ⟨other, arrangedOther, layout⟩
    rw [arrangedOther]
    dsimp only
    cases made : Assembly.make toolhead machine number queue set with
    | error cause =>
      rcases Assembly.exists_cause_of_make layout made with ⟨otherCause, madeOther⟩
      rw [madeOther]
      exact ⟨.none, rfl⟩
    | ok assembly =>
      rcases Assembly.exists_coupled_of_make layout made with ⟨coupled, rfl, madeOther⟩
      rw [madeOther]
      simp only [Assembly.refs_bound]
      cases ZCaps.ofSection toolhead machine.kinematics with
      | error cause => exact ⟨.none, rfl⟩
      | ok caps =>
        refine ⟨.some (reordered_fresh layout toolhead coupled caps fun present => ?_), rfl⟩
        rcases Option.isSome_iff_exists.mp present with ⟨served, rfl⟩
        rfl

end Gantry

end BeltGantry

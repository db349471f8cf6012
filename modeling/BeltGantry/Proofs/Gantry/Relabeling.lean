import BeltGantry.Proofs.Gantry.Touch
namespace BeltGantry

/-!
# Labels

Much of what a gantry is made of only tells things apart: the handles of steppers,
the names of queues, the order in which axes are listed.  No operation reads such
labels, so a gantry answers every operation as it would under other labels.

A relabeling may put another axis set of the same layout in the place of the one of
the gantry, and it may change rails in any way that is inert, which is to say that
what operations read of a rail stays the same whatever coordinates are pushed to it.
Homing also passes rails to a host, who must not look at labels either.
-/

variable {α : Type}

/-! ## Plans -/

namespace Homing

section

variable {set other : AxisSet} (same : set.SameLayout other) {change : Rail α → Rail α}

include same

theorem railOf?_map (rails : Triplet (Option (Rail α))) (axis : Nat) :
    railOf? other (rails.map (Option.map change)) axis = (railOf? set rails axis).map change := by
  unfold railOf?
  rw [same.slotOf]
  cases set.slotOf axis with
  | none => rfl
  | some slot => exact Triplet.get_map _ _ slot

/-- A plan for changed rails has the same axes with changed rails. -/
theorem plan_map (rails : Triplet (Option (Rail α))) (wanted : List Nat) :
    plan other (rails.map (Option.map change)) wanted =
      (plan set rails wanted).map (List.map (Prod.map id change)) := by
  induction wanted with
  | nil => rfl
  | cons axis rest inductionHypothesis =>
    unfold plan
    rw [railOf?_map same]
    cases railOf? set rails axis with
    | none => rfl
    | some rail =>
      simp only [Option.map_some, inductionHypothesis]
      cases plan set rails rest <;> rfl

end

end Homing

variable [Scalar α]

/-! ## Rails -/

namespace Rail

/-- A change of rails that keeps all that operations read, now and after coordinates
were pushed. -/
structure Inert (change : Rail α → Rail α) : Prop where
  name : ∀ rail, (change rail).name = rail.name
  positionMin : ∀ rail, (change rail).positionMin = rail.positionMin
  positionMax : ∀ rail, (change rail).positionMax = rail.positionMax
  positionEndstop : ∀ rail, (change rail).positionEndstop = rail.positionEndstop
  positiveDir : ∀ rail, (change rail).positiveDir = rail.positiveDir
  position : ∀ rail, (change rail).position = rail.position
  moveTo : ∀ rail coordinate, (change rail).moveTo coordinate = change (rail.moveTo coordinate)

/-- A change of endstops and steppers is inert if it commutes with pushing a coordinate to
a stepper and leaves positions as they are. -/
theorem inert_of_steppers (endstop : Endstop → Endstop) {change : Stepper α → Stepper α}
    (position : ∀ stepper, (change stepper).position = stepper.position)
    (moveTo : ∀ stepper coordinate,
      (change stepper).moveTo coordinate = change (stepper.moveTo coordinate)) :
    Inert fun rail : Rail α =>
      { rail with endstop := endstop rail.endstop, steppers := rail.steppers.map change } where
  name := fun _ => rfl
  positionMin := fun _ => rfl
  positionMax := fun _ => rfl
  positionEndstop := fun _ => rfl
  positiveDir := fun _ => rfl
  position := by
    intro rail
    unfold Rail.position
    cases rail.steppers with
    | nil => rfl
    | cons first rest => exact position first
  moveTo := by
    intro rail coordinate
    have pushed : (rail.steppers.map change).map (·.moveTo coordinate) =
        (rail.steppers.map (·.moveTo coordinate)).map change := by
      rw [List.map_map, List.map_map]
      exact List.map_congr_left fun stepper _ => moveTo stepper coordinate
    exact congrArg (fun steppers =>
      { rail with endstop := endstop rail.endstop, steppers := steppers }) pushed

namespace Inert

variable {change : Rail α → Rail α} (inert : Inert change)

include inert

theorem range (rail : Rail α) : (change rail).range = rail.range := by
  unfold Rail.range
  rw [inert.positionMin, inert.positionMax]

theorem ofRail? (axis : Nat) (rail : Rail α) (axisCount : Nat) :
    HomingMove.ofRail? axis (change rail) axisCount = HomingMove.ofRail? axis rail axisCount := by
  simp only [HomingMove.ofRail?, HomingMove.ofRail, stagingPoint, inert.positionMin,
    inert.positionMax, inert.positionEndstop, inert.positiveDir]

theorem map_moveTo (rails : Triplet (Option (Rail α))) (coordinate : Point α) :
    (rails.map (Option.map change)).map (Option.map (·.moveTo coordinate)) =
      (rails.map (Option.map (·.moveTo coordinate))).map (Option.map change) := by
  ext1 slot
  simp only [Triplet.get_map, Option.map_map]
  congr 1
  funext rail
  exact inert.moveTo rail coordinate

end Inert

end Rail

/-- Other labels for gantries. -/
structure Relabeling (α : Type) [Scalar α] where
  axisSet : AxisSet → AxisSet
  queue : MotionQueue → MotionQueue
  rail : Rail α → Rail α
  inert : Rail.Inert rail

/-- The host cannot tell rails from changed ones. -/
def HomingHost.BlindTo {σ : Type} (host : HomingHost α σ) (change : Rail α → Rail α) : Prop :=
  ∀ state rails move,
    host.homeRails state (rails.map change) move = host.homeRails state rails move

/-- The simulation looks at the name of a rail only. -/
theorem Rail.Inert.blindTo_host {change : Rail α → Rail α} (inert : Inert change) :
    SimulatedHoming.host.BlindTo change := by
  intro homing rails move
  cases rails with
  | nil => rfl
  | cons rail rest =>
    change SimulatedHoming.homeRails homing (change rail :: rest.map change) move = _
    simp only [SimulatedHoming.homeRails, List.head?_cons, Option.map_some, inert.name]
    rfl

/-! ## Homing -/

namespace Homing

variable {σ : Type} {change : Rail α → Rail α}

theorem perform_map (inert : Rail.Inert change) {host : HomingHost α σ}
    (blind : host.BlindTo change) (axisCount : Nat) (steps : List (Nat × Rail α)) (state : σ) :
    perform host axisCount (steps.map (Prod.map id change)) state =
      perform host axisCount steps state := by
  induction steps generalizing state with
  | nil => rfl
  | cons step rest inductionHypothesis =>
    rcases step with ⟨axis, rail⟩
    simp only [List.map_cons, Prod.map, id_eq]
    unfold perform
    rw [inert.ofRail?]
    cases HomingMove.ofRail? axis rail axisCount with
    | none => rfl
    | some move =>
      have sameCall := blind state [rail] move
      have sameStart : startNotice (change rail) move = startNotice rail move := by
        unfold startNotice
        rw [inert.name]
      rw [List.map_cons, List.map_nil] at sameCall
      simp only [sameCall, sameStart, inert.name, inductionHypothesis]

theorem homeInOrder_map {set other : AxisSet} (same : set.SameLayout other)
    (inert : Rail.Inert change) {host : HomingHost α σ} (blind : host.BlindTo change)
    (axisCount : Nat) (rails : Triplet (Option (Rail α)))
    (state : σ) :
    homeInOrder host axisCount other (rails.map (Option.map change)) state =
      homeInOrder host axisCount set rails state := by
  unfold homeInOrder
  rw [plan_map same]
  cases plan set rails (host.wanted state) with
  | error fault => rfl
  | ok steps => exact perform_map inert blind axisCount steps state

end Homing

/-! ## Operations -/

namespace Gantry

def relabel (labels : Relabeling α) (gantry : Gantry α) : Gantry α :=
  { gantry with
    axisSet := labels.axisSet gantry.axisSet
    rails := gantry.rails.map (Option.map labels.rail)
    queue := labels.queue gantry.queue }

variable (labels : Relabeling α) (gantry : Gantry α)

theorem railList_relabel :
    (gantry.relabel labels).railList = gantry.railList.map labels.rail := by
  rcases gantry with ⟨_, ⟨x, y, z⟩, _, _, _, _, _⟩
  cases x <;> cases y <;> cases z <;> rfl

theorem measuredAt_relabel (measured : String → Option α) (slot : Slot) :
    (gantry.relabel labels).measuredAt measured slot = gantry.measuredAt measured slot := by
  unfold measuredAt relabel
  rw [Triplet.get_map]
  cases gantry.rails.get slot with
  | none => rfl
  | some rail => simp only [Option.map_some, labels.inert.name]

theorem calcPosition_relabel (measured : String → Option α) :
    (gantry.relabel labels).calcPosition measured = gantry.calcPosition measured := by
  unfold calcPosition
  rw [measuredAt_relabel, measuredAt_relabel, measuredAt_relabel]

theorem ownPositions_relabel : (gantry.relabel labels).ownPositions = gantry.ownPositions := by
  have sameName (name : String) : (fun rail : Rail α => rail.name == name) ∘ labels.rail =
      fun rail => rail.name == name := by
    funext rail
    exact congrArg (· == name) (labels.inert.name rail)
  have samePosition : Rail.position ∘ labels.rail = Rail.position := funext labels.inert.position
  funext name
  unfold ownPositions
  rw [railList_relabel, List.find?_map, Option.map_map, sameName, samePosition]

theorem range_relabel (slot : Slot) : (gantry.relabel labels).range slot = gantry.range slot := by
  unfold range relabel
  rw [Triplet.get_map]
  cases gantry.rails.get slot with
  | none => rfl
  | some rail => exact labels.inert.range rail

theorem value_homeSlots_relabel (slots : List Slot) :
    (homeSlots (gantry.relabel labels).rails slots gantry.limits).value =
      (homeSlots gantry.rails slots gantry.limits).value := by
  have sameRange : Rail.range ∘ labels.rail = Rail.range := funext labels.inert.range
  ext1 slot
  unfold relabel
  rw [get_homeSlots, get_homeSlots, Triplet.get_map, Option.map_map, sameRange]

section

variable (same : gantry.axisSet.SameLayout (labels.axisSet gantry.axisSet))

include same

theorem slotsOf_relabel (axes : List Nat) :
    (gantry.relabel labels).slotsOf axes = gantry.slotsOf axes := by
  have sameRule : (gantry.relabel labels).slotOf = gantry.slotOf := by
    funext axis
    unfold slotOf relabel
    rw [same.slotOf]
  rw [slotsOf_eq_mapM, slotsOf_eq_mapM, sameRule]

theorem status_relabel (time : α) : (gantry.relabel labels).status time = gantry.status time := by
  have sameAxes : (gantry.relabel labels).homedAxes = gantry.homedAxes := by
    unfold homedAxes relabel
    rw [same.isDummy]
  unfold status
  simp only [range_relabel, sameAxes]

/-- Homing looks at no label, if the host does not. -/
theorem home_relabel {σ : Type} {host : HomingHost α σ} (blind : host.BlindTo labels.rail)
    (state : σ) : (gantry.relabel labels).home host state = gantry.home host state := by
  unfold home relabel
  apply congrArg (Functor.map _)
  exact Homing.homeInOrder_map same labels.inert blind gantry.axisCount gantry.rails state

theorem setPosition_relabel (position : Point α) (axes : List Nat) :
    ((gantry.relabel labels).setPosition position axes).value =
      Prod.map id (relabel labels) (gantry.setPosition position axes).value := by
  rw [value_setPosition, value_setPosition, slotsOf_relabel labels gantry same]
  cases gantry.slotsOf axes with
  | error fault => rfl
  | ok slots =>
    have limits := value_homeSlots_relabel labels gantry slots
    have rails := labels.inert.map_moveTo gantry.rails position
    unfold relabel at limits ⊢
    simp only [Prod.map, id_eq, limits, rails]

theorem forgetAxis_relabel (axis : Nat) :
    ((gantry.relabel labels).forgetAxis axis).value =
      Prod.map id (relabel labels) (gantry.forgetAxis axis).value := by
  have sameSlot : (gantry.relabel labels).axisSet.slotOf axis = gantry.axisSet.slotOf axis :=
    congrFun same.slotOf axis
  rw [value_forgetAxis, value_forgetAxis, sameSlot]
  cases gantry.axisSet.slotOf axis <;> rfl

theorem homeSimulated_relabel (homing : SimulatedHoming α) (apply : Bool) :
    ((gantry.relabel labels).homeSimulated homing apply).value =
      Prod.map id (relabel labels) (gantry.homeSimulated homing apply).value := by
  have homed := gantry.home_relabel labels same labels.inert.blindTo_host homing
  have sameTriplet : (gantry.relabel labels).axisSet.triplet = gantry.axisSet.triplet :=
    same.triplet
  rw [value_homeSimulated, value_homeSimulated, homed, sameTriplet]
  dsimp only
  rw [setPosition_relabel labels gantry same]
  split <;> rfl

/-- A relabeled gantry answers every operation alike, and comes out relabeled. -/
theorem perform_relabel (operation : Operation α) :
    ((gantry.relabel labels).perform operation).value =
      Prod.map id (relabel labels) (gantry.perform operation).value := by
  cases operation with
  | setPosition position axes =>
    simp only [perform, Noted.value_bind, Noted.value_pure,
      setPosition_relabel labels gantry same]
    rfl
  | calcPosition measured =>
    simp only [perform, Noted.value_pure, calcPosition_relabel, ownPositions_relabel]
    rfl
  | forgetAxis axis =>
    simp only [perform, Noted.value_bind, Noted.value_pure, forgetAxis_relabel labels gantry same]
    rfl
  | home homing apply =>
    simp only [perform, Noted.value_bind, Noted.value_pure,
      homeSimulated_relabel labels gantry same]
    rfl
  | status time =>
    simp only [perform, Noted.value_bind, Noted.value_pure, status_relabel labels gantry same]
    rfl
  | _ => rfl

end

end Gantry

end BeltGantry

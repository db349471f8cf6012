import BeltGantry.Proofs.Gantry.Furnishing
import BeltGantry.Proofs.Gantry.Relabeling
import BeltGantry.Proofs.Rail.Renumbering
namespace BeltGantry

/-!
# Renumbered gantries

The number of a gantry enters its rails when it is built, and nothing reads it
again: handles are labels.  So a gantry that is built under another number is the
same one renumbered, a renumbered gantry answers every operation alike, and it
comes out renumbered.  The same goes for homing with any host that does not look at
handles.

Of the toolhead, building reads the number of axes and the bounds of speed and
acceleration, but not what is registered.
-/

variable {α : Type}

/-- Rails of a gantry with all handles renumbered. -/
def renumberRails (distance : Nat) (rails : Triplet (Option (Rail α))) :
    Triplet (Option (Rail α)) :=
  rails.map (Option.map (Rail.renumber distance))

@[simp] theorem get_renumberRails (distance : Nat) (rails : Triplet (Option (Rail α)))
    (slot : Slot) :
    (renumberRails distance rails).get slot = (rails.get slot).map (Rail.renumber distance) :=
  Triplet.get_map _ _ slot

/-! ## Operations -/

namespace HomingHost

variable {σ : Type}

/-- The host tells rails that differ in their handles only not apart. -/
def Blind (host : HomingHost α σ) : Prop :=
  ∀ distance state rails move,
    host.homeRails state (rails.map (Rail.renumber distance)) move =
      host.homeRails state rails move

end HomingHost

/-- What operations read of a rail has no handle in it. -/
theorem Rail.inert_renumber [Scalar α] (distance : Nat) :
    Inert (Rail.renumber distance : Rail α → Rail α) :=
  inert_of_steppers (Endstop.renumber distance) (fun _ => rfl) (Stepper.moveTo_renumber distance)

theorem SimulatedHoming.blind_host [Scalar α] : (SimulatedHoming.host (α := α)).Blind :=
  fun distance => (Rail.inert_renumber distance).blindTo_host

namespace Gantry

def renumber (distance : Nat) (gantry : Gantry α) : Gantry α :=
  { gantry with rails := renumberRails distance gantry.rails }

variable [Scalar α] (distance : Nat) (gantry : Gantry α)

/-- The relabeling that renumbers all handles and changes nothing else. -/
def renumbering : Relabeling α := ⟨id, id, Rail.renumber distance, Rail.inert_renumber distance⟩

/-- Homing looks at no handle, if the host does not. -/
theorem home_renumber {σ : Type} {host : HomingHost α σ} (blind : host.Blind) (state : σ) :
    (gantry.renumber distance).home host state = gantry.home host state :=
  gantry.home_relabel (renumbering distance) (.refl gantry.axisSet) (blind distance) state

/-- A renumbered gantry answers every operation alike, and comes out renumbered. -/
theorem perform_renumber (operation : Operation α) :
    ((gantry.renumber distance).perform operation).value =
      Prod.map id (renumber distance) (gantry.perform operation).value :=
  gantry.perform_relabel (renumbering distance) (.refl gantry.axisSet) operation

end Gantry

/-! ## Building -/

/-- The toolhead before anything was registered. -/
def Toolhead.bare (toolhead : Toolhead α) : Toolhead α := { toolhead with registered := [] }

namespace Assembly

def renumber (distance : Nat) (assembly : Assembly α) : Assembly α :=
  { assembly with rails := renumberRails distance assembly.rails }

theorem couplePair_renumber (distance : Nat) (set : AxisSet)
    (rails : Triplet (Option (Rail α))) :
    couplePair set (renumberRails distance rails) =
      (couplePair set rails).map (renumberRails distance) := by
  rcases rails with ⟨first, second, third⟩
  cases first with
  | none => rfl
  | some first =>
    cases second with
    | none => rfl
    | some second =>
      have coupled := first.coupledTo_renumber distance second
      have coupledBack := second.coupledTo_renumber distance first
      simp only [couplePair, renumberRails, Triplet.map, Option.map_some, coupled, coupledBack]
      rfl

theorem bindRails_renumber (distance : Nat) (queue : MotionQueue)
    (rails : Triplet (Option (Rail α))) :
    bindRails queue (renumberRails distance rails) =
      renumberRails distance (bindRails queue rails) := by
  ext1 slot
  rw [bindRails, bindRails, Triplet.get_ofSlots, get_renumberRails, get_renumberRails,
    Triplet.get_ofSlots, Option.map_map, Option.map_map]
  congr 1
  funext rail
  change ((rail.renumber distance).bind (Binding.ofSlot slot)).attach queue = _
  rw [Rail.bind_renumber, Rail.attach_renumber]
  rfl

variable [Scalar α]

theorem railAt_number (machine : Machine α) (number : Nat) (set : AxisSet) (slot : Slot) :
    railAt machine number set slot =
      (railAt machine 0 set slot).map (Option.map (Rail.renumber (tripletSize * number))) := by
  have split : tripletSize * number + slot.index =
      tripletSize * number + (tripletSize * 0 + slot.index) := by
    rw [Nat.mul_zero, Nat.zero_add]
  unfold railAt
  cases set.axisAt slot with
  | none => rfl
  | some axis =>
    dsimp only
    cases machine.rail? axis.letter with
    | none => rfl
    | some given =>
      have made := Rail.ofSection_add (tripletSize * number) (tripletSize * 0 + slot.index)
        axis.letter given
      rw [← split] at made
      dsimp only
      rw [made]
      cases Rail.ofSection (tripletSize * 0 + slot.index) axis.letter given <;> rfl

theorem make_number (toolhead : Toolhead α) (machine : Machine α) (number : Nat)
    (queue : Option MotionQueue) (set : AxisSet) :
    make toolhead machine number queue set =
      (make toolhead machine 0 queue set).map (renumber (tripletSize * number)) := by
  unfold make
  rw [railAt_number machine number, railAt_number machine number, railAt_number machine number]
  cases checkAxisCount toolhead set with
  | error cause => rfl
  | ok _ =>
    cases railAt machine 0 set .x with
    | error cause => rfl
    | ok x =>
      cases railAt machine 0 set .y with
      | error cause => rfl
      | ok y =>
        cases railAt machine 0 set .z with
        | error cause => rfl
        | ok z =>
          change (couplePair set (renumberRails _ ⟨x, y, z⟩) >>= _) =
            Except.map _ (couplePair set ⟨x, y, z⟩ >>= _)
          rw [couplePair_renumber]
          cases couplePair set ⟨x, y, z⟩ with
          | error cause => rfl
          | ok coupled =>
            let served := queue.getD (Toolhead.queueFor set.letters)
            have bound := bindRails_renumber (tripletSize * number) served coupled
            exact congrArg (fun rails => Except.ok (Assembly.mk rails served)) bound

end Assembly

namespace Gantry

variable [Scalar α] (toolhead : Toolhead α) (machine : Machine α) (number : Nat)
  (queue : Option MotionQueue) (letters : String) (indices : List Nat)

/-- A gantry that is built under a number is the one of number zero, renumbered. -/
theorem build_number :
    (build toolhead machine number queue letters indices).value.1 =
      (build toolhead machine 0 queue letters indices).value.1.map
        (renumber (tripletSize * number)) := by
  rw [value_build, value_build]
  cases AxisSet.arrange letters indices with
  | error fault => rfl
  | ok set =>
    simp only [Assembly.make_number toolhead machine number]
    cases Assembly.make toolhead machine 0 queue set with
    | error cause => rfl
    | ok assembly =>
      cases ZCaps.ofSection toolhead machine.kinematics <;> rfl

/-- What is registered has no part in building. -/
theorem build_bare :
    (build toolhead.bare machine number queue letters indices).value.1 =
      (build toolhead machine number queue letters indices).value.1 := by
  have sameAssembly (set : AxisSet) : Assembly.make toolhead.bare machine number queue set =
      Assembly.make toolhead machine number queue set := rfl
  have sameCaps : ZCaps.ofSection toolhead.bare machine.kinematics =
      ZCaps.ofSection toolhead machine.kinematics := rfl
  rw [value_build, value_build, sameCaps]
  cases AxisSet.arrange letters indices with
  | error fault => rfl
  | ok set =>
    simp only [sameAssembly]
    cases Assembly.make toolhead machine number queue set with
    | error cause => rfl
    | ok assembly =>
      cases ZCaps.ofSection toolhead machine.kinematics <;> rfl

/-- Building changes nothing of the toolhead but what is registered. -/
theorem bare_build :
    (build toolhead machine number queue letters indices).value.2.bare = toolhead.bare := by
  rcases register_of_build toolhead machine number queue letters indices with
    kept | ⟨gantry, -, registered⟩
  · rw [kept]
  · rw [registered]
    rfl

end Gantry

end BeltGantry

import Mathlib.Algebra.Order.Ring.Rat
import Mathlib.Data.Rat.Defs
import BeltGantry.Proofs.Gantry.Measurement
import BeltGantry.Proofs.Session.Command
namespace BeltGantry

/-!
# Measured positions in a session

In exact arithmetic, what is calculated from the positions of the rails of a gantry
is the coordinate that its history set last.  Conversely the coordinate that is
calculated from measurements of all rails can be set, in whatever state the gantry
is, and then the rails stand as they were measured.  A gantry without a third axis
makes no difference: it takes the third component from the coordinate it keeps.
-/

namespace Session

theorem labelled_run {α : Type} [Scalar α] {toolhead : Toolhead α} {requests : List (Request α)}
    {number : Nat} {gantry : Gantry α}
    (held : gantry? ((start toolhead).run requests) number = some gantry) : gantry.Labelled := by
  refine forall_gantry?_run ?_ ?_ ?_ held
  · intro toolhead machine number queue letters indices built succeeded
    exact Gantry.labelled_of_build succeeded
  · intro before operation labelled
    exact labelled.perform operation
  · intro before time labelled
    exact labelled.motorsOff time

variable {K : Type} [Field K] [LinearOrder K] [IsStrictOrderedRing K]

/-- Calculating and setting a coordinate undo each other in every session that is
reached. -/
theorem measured_of_history (toolhead : Toolhead K) (requests : List (Request K))
    (number : Nat) (gantry : Gantry K)
    (held : gantry? ((start toolhead).run requests) number = some gantry) :
    let commanded := (lastPushed? number ((start toolhead).trace requests)).getD ⟨0.0, 0.0, 0.0⟩
    (∀ rail ∈ gantry.railList, gantry.ownPositions rail.name = some rail.position) ∧
    gantry.calcPosition gantry.ownPositions = .ok commanded ∧
    ∀ measured : String → Option K,
      (∀ rail ∈ gantry.railList, (measured rail.name).isSome = true) →
      ∃ coordinate, gantry.calcPosition measured = .ok coordinate ∧
        (gantry.setPosition coordinate []).value.1 = .ok () ∧
        ∀ slot earlier, gantry.rails.get slot = some earlier →
          ∃ rail, (gantry.setPosition coordinate []).value.2.rails.get slot = some rail ∧
            rail.name = earlier.name ∧ measured rail.name = some rail.position := by
  intro commanded
  rcases commanded_run originRests_exact toolhead held with ⟨position, inStep⟩
  have kept : gantry.position = commanded := position
  have labelled := labelled_run held
  refine ⟨fun rail => labelled.ownPositions, ?_, fun measured complete => ?_⟩
  · rw [← kept]
    exact inStep.calcPosition labelled fun rail => labelled.ownPositions
  · exact inStep.setPosition_calcPosition labelled complete

end Session

/-- A machine with two axes in use, its numbers read exactly. -/
def Machine.flatbed : Machine ℚ :=
  let rail : RailSection ℚ :=
    { positionMin := 0.0, positionMax := 200.0, positionEndstop := 0.0 }
  { printer := { maxVelocity := 300.0, maxAccel := 3000.0 }
    rails := [("x", rail), ("y", rail)] }

def Toolhead.flatbed : Toolhead ℚ := .ofPrinter Machine.flatbed.printer

namespace Session

/-- A session on a gantry without third axis. -/
def settingFlat : List (Request ℚ) :=
  [.build .flatbed "XY" [0, 1] none, .operate 0 (.setPosition ⟨10.0, 20.0, 5.0⟩ [1, 0]),
    .motorsOff 0.5]

theorem isSome_settingFlat :
    (Session.gantry? ((start .flatbed).run settingFlat) 0).isSome = true := by
  decide +kernel

/-- Measurements of two rails. -/
def measuredFlat : List (String × ℚ) := [("stepper_x", 7.0), ("stepper_y", 3.0)]

theorem measured_of_history_settingFlat :
    ∃ gantry, gantry? ((start .flatbed).run settingFlat) 0 = some gantry ∧
      gantry.calcPosition gantry.ownPositions = .ok ⟨10.0, 20.0, 5.0⟩ ∧
      ∃ coordinate, gantry.calcPosition (measuredFlat.lookup ·) = .ok coordinate ∧
        ∃ rail, (gantry.setPosition coordinate []).value.2.rails.get .x = some rail ∧
          measuredFlat.lookup rail.name = some rail.position := by
  have held := (Option.some_get isSome_settingFlat).symm
  rcases measured_of_history .flatbed settingFlat 0 _ held with ⟨-, calculated, settable⟩
  have last : lastPushed? 0 ((start .flatbed).trace settingFlat) = some ⟨10.0, 20.0, 5.0⟩ := by
    decide +kernel
  have names : (Option.get _ isSome_settingFlat).railList.map Rail.name =
      measuredFlat.map Prod.fst := by
    decide +kernel
  have first : ((Option.get _ isSome_settingFlat).rails.get .x).isSome = true := by
    decide +kernel
  have complete : ∀ rail ∈ (Option.get _ isSome_settingFlat).railList,
      (measuredFlat.lookup rail.name).isSome = true := by
    intro rail listed
    have named : rail.name ∈ measuredFlat.map Prod.fst := names ▸ List.mem_map_of_mem listed
    have readable : ∀ name ∈ measuredFlat.map Prod.fst,
        (measuredFlat.lookup name).isSome = true := by
      decide +kernel
    exact readable rail.name named
  rw [last] at calculated
  rcases settable (measuredFlat.lookup ·) complete with ⟨coordinate, found, -, standing⟩
  rcases standing .x _ (Option.some_get first).symm with ⟨rail, after, -, position⟩
  exact ⟨_, held, calculated, coordinate, found, rail, after, position⟩

end Session

end BeltGantry

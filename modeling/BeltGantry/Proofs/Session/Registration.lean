import BeltGantry.Proofs.Session.Step
namespace BeltGantry

/-!
# What a refused build leaves behind

A refused build never subscribes to an event.  With one exception it leaves the
registered steppers alone as well: the steppers are registered when axes and
rails are in order, and only then are the caps of the third slot checked.  When
the caps are refused, all steppers of the gantry that was not built stay
registered, and these are two at least.
-/

variable {α : Type} [Scalar α]

theorem Rail.MadeFrom.length_refs {rail : Rail α} {given : RailSection α}
    (made : rail.MadeFrom given) : 0 < rail.refs.length := by
  unfold Rail.refs
  rw [List.length_map]
  exact List.length_pos_iff.mpr made.driven

namespace Assembly

variable {toolhead : Toolhead α} {machine : Machine α} {number : Nat}
  {queue : Option MotionQueue} {set : AxisSet} {assembly : Assembly α}

theorem two_le_length_refs (made : make toolhead machine number queue set = .ok assembly) :
    2 ≤ assembly.refs.length := by
  rcases pair_of_make made with ⟨first, second, atX, atY⟩
  rcases (holds_of_make made .x).exists_section atX with ⟨_, _, -, -, madeFirst⟩
  rcases (holds_of_make made .y).exists_section atY with ⟨_, _, -, -, madeSecond⟩
  have drivenFirst := madeFirst.length_refs
  have drivenSecond := madeSecond.length_refs
  unfold refs railList Triplet.toList
  rw [atX, atY]
  simp only [List.filterMap_cons, id, List.flatMap_cons, List.length_append]
  omega

end Assembly

namespace Gantry

/-- Axes and rails of a gantry are in order, but the caps of its third slot are not. -/
def CapsRefused (toolhead : Toolhead α) (machine : Machine α) (number : Nat)
    (queue : Option MotionQueue) (letters : String) (indices : List Nat) : Prop :=
  ∃ set assembly cause, AxisSet.arrange letters indices = .ok set ∧
    Assembly.make toolhead machine number queue set = .ok assembly ∧
    ZCaps.ofSection toolhead machine.kinematics = .error cause

/-- The steppers that are registered after a refused build. -/
theorem registered_of_error {toolhead : Toolhead α} {machine : Machine α} {number : Nat}
    {queue : Option MotionQueue} {letters : String} {indices : List Nat} {fault : Fault α}
    (refused : (build toolhead machine number queue letters indices).value.1 = .error fault) :
    let after := (build toolhead machine number queue letters indices).value.2
    (after.registered = toolhead.registered ↔
      ¬ CapsRefused toolhead machine number queue letters indices) ∧
    ∀ set assembly, AxisSet.arrange letters indices = .ok set →
      Assembly.make toolhead machine number queue set = .ok assembly →
      after.registered = toolhead.registered ++ assembly.refs ∧ 2 ≤ assembly.refs.length := by
  rw [value_build] at refused ⊢
  unfold CapsRefused
  cases arranged : AxisSet.arrange letters indices with
  | error cause => simp
  | ok set =>
    cases made : Assembly.make toolhead machine number queue set with
    | error cause =>
      refine ⟨by simp [made], fun other assembly sameSet madeOther => ?_⟩
      rw [← Except.ok.inj sameSet, made] at madeOther
      cases madeOther
    | ok assembly =>
      have several := Assembly.two_le_length_refs made
      cases capped : ZCaps.ofSection toolhead machine.kinematics with
      | ok caps => simp [arranged, made, capped] at refused
      | error cause =>
        have unempty : assembly.refs ≠ [] := by
          intro empty
          rw [empty] at several
          cases several
        refine ⟨by simp [made, Toolhead.register, unempty], fun other found sameSet madeOther => ?_⟩
        rw [← Except.ok.inj sameSet, made] at madeOther
        rw [← Except.ok.inj madeOther]
        exact ⟨by simp [made, Toolhead.register], several⟩

end Gantry

/-- The small machine with a third slot that may not move at all. -/
def Machine.stalled : Machine Float :=
  { Machine.benchtop with kinematics := { maxZVelocity := some 0.0 } }

namespace Session

/-- A refused build subscribes nothing and fills its number with nothing.  The
registered steppers stay what they were exactly if it is not the caps that are
refused; otherwise all steppers of the gantry are registered, at least two. -/
theorem registered_of_refused (session : Session α) (machine : Machine α) (letters : String)
    (indices : List Nat) (queue : Option MotionQueue) (fault : Fault α)
    (refused : (session.perform (.build machine letters indices queue)).value.1 =
      .built (.error fault)) :
    let after := (session.perform (.build machine letters indices queue)).value.2
    let number := session.gantries.length
    after.bus = session.bus ∧ after.gantries = session.gantries ++ [none] ∧
    (after.toolhead.registered = session.toolhead.registered ↔
      ¬ Gantry.CapsRefused session.toolhead machine number queue letters indices) ∧
    ∀ set assembly, AxisSet.arrange letters indices = .ok set →
      Assembly.make session.toolhead machine number queue set = .ok assembly →
      after.toolhead.registered = session.toolhead.registered ++ assembly.refs ∧
        2 ≤ assembly.refs.length := by
  intro after number
  have performed := session.value_build machine letters indices queue
  have failed : (Gantry.build session.toolhead machine number queue letters indices).value.1 =
      .error fault := by
    rw [performed] at refused
    exact Reply.built.inj refused
  have toolhead : after.toolhead =
      (Gantry.build session.toolhead machine number queue letters indices).value.2 := by
    exact congrArg (·.2.toolhead) performed
  have bus : after.bus = session.bus := by
    refine (congrArg (·.2.bus) performed).trans ?_
    dsimp only
    rw [failed]
    rfl
  have gantries : after.gantries = session.gantries ++ [none] := by
    refine (congrArg (·.2.gantries) performed).trans ?_
    dsimp only
    rw [failed]
    rfl
  rw [toolhead]
  exact ⟨bus, gantries, Gantry.registered_of_error failed⟩

theorem refused_stalled : ∃ fault,
    ((start .benchtop).perform (.build .stalled "XYZ" [0, 1, 2] none)).value.1 =
      .built (.error fault) := by
  have failed : (Gantry.build .benchtop .stalled 0 none "XYZ" [0, 1, 2]).value.1.isOk = false := by
    decide
  rw [value_build]
  change ∃ fault, Reply.built (Gantry.build .benchtop .stalled 0 none "XYZ" [0, 1, 2]).value.1 = _
  cases outcome : (Gantry.build .benchtop .stalled 0 none "XYZ" [0, 1, 2]).value.1 with
  | error fault => exact ⟨fault, rfl⟩
  | ok gantry =>
    rw [outcome] at failed
    cases failed

theorem registered_stalled :
    ((start .benchtop).perform
      (.build .stalled "XYZ" [0, 1, 2] none)).value.2.toolhead.registered.length = 3 := by
  decide

theorem registered_of_refused_stalled :
    ∃ fault, ((start .benchtop).perform (.build .stalled "XYZ" [0, 1, 2] none)).value.1 =
        .built (.error fault) ∧
      Gantry.CapsRefused .benchtop .stalled 0 none "XYZ" [0, 1, 2] := by
  rcases refused_stalled with ⟨fault, refused⟩
  have effects := registered_of_refused (start .benchtop) .stalled "XYZ" [0, 1, 2] none fault refused
  refine ⟨fault, refused, Classical.byContradiction fun notCaps => ?_⟩
  have unchanged := effects.2.2.1.mpr notCaps
  have grown := registered_stalled
  rw [unchanged] at grown
  cases grown

/-- Not every refused build leaves the registered steppers as they were. -/
theorem exists_refused_build_registering :
    ¬ ∀ (session : Session Float) (machine : Machine Float) (letters : String)
      (indices : List Nat) (queue : Option MotionQueue) (fault : Fault Float),
      (session.perform (.build machine letters indices queue)).value.1 = .built (.error fault) →
      (session.perform (.build machine letters indices queue)).value.2.toolhead.registered =
        session.toolhead.registered ∧
      (session.perform (.build machine letters indices queue)).value.2.bus = session.bus := by
  intro atomic
  rcases refused_stalled with ⟨fault, refused⟩
  have unchanged := (atomic (start .benchtop) .stalled "XYZ" [0, 1, 2] none fault refused).1
  have grown := registered_stalled
  rw [unchanged] at grown
  cases grown

end Session

end BeltGantry

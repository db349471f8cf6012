import BeltGantry.Proofs.Axis.Arrangement
import BeltGantry.Proofs.Gantry.Equipment
import BeltGantry.Proofs.Machine.Acceptance
import BeltGantry.Proofs.Scalar.Difference
namespace BeltGantry

/-!
# Obstacles to building a gantry

The sections of the rails are checked twice: all of them when the machine is checked, and
those in use again when rails are made of them.  The two checks agree.  A rail is refused
exactly with its section, for the same cause under the name of the rail; the direction that
is read after the check was read in the check already, so it is there.

A machine that was accepted therefore has no rail to refuse.  What is left to stand in the
way of a gantry are the obstacles that `Gantry.Obstacle` lists, each with the cause that a
refused build may report for it: axes that form no set, a toolhead that carries too few of
them, an axis without a section, an incomplete pair, and caps of the third slot that are
out of bounds.  A build is refused exactly if there is an obstacle, and reports one.
-/

section

variable {α : Type} [Scalar α]

/-! ## Sections -/

namespace Machine

variable {machine : Machine α}

/-- Every section of an accepted machine passed its check. -/
theorem validate_of_mem_rails (accepted : machine.validate = .ok ())
    {entry : String × RailSection α} (listed : entry ∈ machine.rails) :
    entry.2.validate = .ok () := by
  have checked : validateRails machine.rails = .ok () := by
    unfold validate at accepted
    split at accepted
    · cases accepted
    · split at accepted
      · cases accepted
      · exact accepted
  generalize machine.rails = entries at listed checked
  induction entries with
  | nil => cases listed
  | cons first rest inductionHypothesis =>
    unfold validateRails at checked
    cases valid : first.2.validate with
    | error cause => simp [valid] at checked
    | ok _ =>
      simp only [valid] at checked
      rcases List.mem_cons.mp listed with rfl | later
      · exact valid
      · exact inductionHypothesis later checked

omit [Scalar α] in
/-- A section that is found is one of those under the letter in lower case. -/
theorem mem_rails_of_rail? {letter : Char} {given : RailSection α}
    (found : machine.rail? letter = some given) :
    (letter.toLower.toString, given) ∈ machine.rails := by
  rcases List.lookup_eq_some_iff.mp found with ⟨before, after, entries, -⟩
  rw [entries]
  exact List.mem_append_right _ List.mem_cons_self

omit [Scalar α] in
/-- A letter has no section exactly if no entry has the letter in lower case for its key. -/
theorem rail?_eq_none_iff {letter : Char} :
    machine.rail? letter = none ↔
      ∀ given, (letter.toLower.toString, given) ∉ machine.rails := by
  unfold rail?
  rw [List.lookup_eq_none_iff]
  constructor
  · intro unmatched given listed
    exact bne_iff_ne.mp (unmatched _ listed) rfl
  · rintro absent ⟨key, given⟩ listed
    rw [bne_iff_ne]
    rintro rfl
    exact absent given listed

end Machine

/-! ## Caps -/

/-- What is wrong with a value that has to be above zero and at most `maximum`, which
stands in for it when it is absent. -/
inductive CapOutside (name : String) (value : Option α) (maximum : α) : Invalid α → Prop where
  | low (low : value.getD maximum ≤ (0.0 : α)) :
      CapOutside name value maximum (.notPositive name (value.getD maximum))
  | high (high : maximum < value.getD maximum) :
      CapOutside name value maximum (.aboveMaximum name (value.getD maximum) maximum)

theorem CapOutside.of_refused {name : String} {value : Option α} {maximum : α}
    {cause : Invalid α} (refused : cappedValue name value maximum = .error cause) :
    CapOutside name value maximum cause := by
  unfold cappedValue at refused
  by_cases low : value.getD maximum ≤ (0.0 : α)
  · simp only [low, if_true, Except.error.injEq] at refused
    exact refused ▸ .low low
  · by_cases high : maximum < value.getD maximum
    · simp only [low, high, if_true, if_false, Except.error.injEq] at refused
      exact refused ▸ .high high
    · simp [low, high] at refused

theorem CapOutside.not_accepted {name : String} {value : Option α} {maximum : α}
    {cause : Invalid α} (outside : CapOutside name value maximum cause) (cap : α) :
    cappedValue name value maximum ≠ .ok cap := by
  intro accepted
  rcases unrefused_of_cappedValue accepted with ⟨rfl, notLow, notHigh⟩
  cases outside with
  | low low => exact notLow low
  | high high => exact notHigh high

/-! ## Obstacles -/

namespace Gantry

/-- What stands in the way of a gantry with the given letters and numbers, and the cause
that is reported for it.  Nothing here looks into the section of a rail. -/
inductive Obstacle (toolhead : Toolhead α) (machine : Machine α) (letters : String)
    (indices : List Nat) : Invalid α → Prop where
  | axes {fault : AxisFault} (refused : AxisSet.arrange letters indices = .error fault) :
      Obstacle toolhead machine letters indices (.axes fault)
  | axisCount {set : AxisSet} (arranged : AxisSet.arrange letters indices = .ok set)
      (few : toolhead.axisCount < tripletSize * (set.number + 1)) :
      Obstacle toolhead machine letters indices
        (.tooFewAxes toolhead.axisCount set.triplet (tripletSize * (set.number + 1)))
  | railSection {set : AxisSet} (arranged : AxisSet.arrange letters indices = .ok set)
      {axis : Axis} (listed : axis ∈ set.axes)
      (absent : ∀ given, (axis.letter.toLower.toString, given) ∉ machine.rails) :
      Obstacle toolhead machine letters indices (.missingSection axis.letter)
  | pair {set : AxisSet} (arranged : AxisSet.arrange letters indices = .ok set) {slot : Slot}
      (coupled : slot = .x ∨ slot = .y) (absent : set.globalIndex slot ∉ set.indices) :
      Obstacle toolhead machine letters indices (.incompletePair set.letters set.triplet)
  | velocity {cause : Invalid α} (outside : CapOutside "max_z_velocity"
      machine.kinematics.maxZVelocity toolhead.maxVelocity cause) :
      Obstacle toolhead machine letters indices cause
  | accel {cause : Invalid α} (outside : CapOutside "max_z_accel"
      machine.kinematics.maxZAccel toolhead.maxAccel cause) :
      Obstacle toolhead machine letters indices cause

variable {toolhead : Toolhead α} {machine : Machine α} {number : Nat}
  {queue : Option MotionQueue} {letters : String} {indices : List Nat} {set : AxisSet}

/-- The rail of a slot of an accepted machine can only lack its section. -/
theorem railAt_eq_error_iff (accepted : machine.validate = .ok ()) {slot : Slot}
    {cause : Invalid α} :
    Assembly.railAt machine number set slot = .error cause ↔
      ∃ axis, set.axisAt slot = some axis ∧ (machine.rail? axis.letter).isNone = true ∧
        cause = .missingSection axis.letter := by
  unfold Assembly.railAt
  cases configured : set.axisAt slot with
  | none => simp
  | some axis =>
    cases found : machine.rail? axis.letter with
    | none => simpa [found] using eq_comm
    | some given =>
      have valid := Machine.validate_of_mem_rails accepted (Machine.mem_rails_of_rail? found)
      rcases Rail.exists_ofSection (tripletSize * number + slot.index) axis.letter given valid
        with ⟨rail, made⟩
      simp [found, made, Except.map]

theorem Obstacle.of_couplePair (arranged : AxisSet.arrange letters indices = .ok set)
    {rails : Triplet (Option (Rail α))}
    (found : ∀ slot, Assembly.railAt machine number set slot = .ok (rails.get slot))
    {cause : Invalid α} (refused : Assembly.couplePair set rails = .error cause) :
    Obstacle toolhead machine letters indices cause := by
  have unconfigured {slot : Slot} (missing : rails.get slot = none) :
      set.globalIndex slot ∉ set.indices := by
    intro listed
    have configured := set.globalIndex_mem_indices_iff.mp listed
    have fitted := isSome_of_holds (Assembly.describes_of_railAt (found slot)).1.holds
    rw [missing, configured] at fitted
    cases fitted
  unfold Assembly.couplePair at refused
  cases atX : rails.x with
  | none =>
    simp only [atX, Except.error.injEq] at refused
    rw [← refused]
    exact .pair arranged (.inl rfl) (unconfigured atX)
  | some first =>
    cases atY : rails.y with
    | none =>
      simp only [atX, atY, Except.error.injEq] at refused
      rw [← refused]
      exact .pair arranged (.inr rfl) (unconfigured atY)
    | some second => simp [atX, atY] at refused

/-- An assembly that is refused met an obstacle on its way. -/
theorem Obstacle.of_make (accepted : machine.validate = .ok ())
    (arranged : AxisSet.arrange letters indices = .ok set) {cause : Invalid α}
    (refused : Assembly.make toolhead machine number queue set = .error cause) :
    Obstacle toolhead machine letters indices cause := by
  unfold Assembly.make at refused
  rcases eq_error_of_bind refused with few | ⟨_, -, refused⟩
  · unfold Assembly.checkAxisCount at few
    by_cases below : toolhead.axisCount < tripletSize * (set.number + 1)
    · simp only [below, if_true, Except.error.injEq] at few
      exact few ▸ .axisCount arranged below
    · simp [below] at few
  rcases bind_slots_eq_error_iff.mp refused with failed | ⟨rails, found, refused⟩
  · rcases exists_of_mapM_eq_error failed with ⟨slot, -, refusedAt⟩
    rcases (railAt_eq_error_iff accepted).mp refusedAt with ⟨axis, configured, absent, rfl⟩
    exact .railSection arranged (set.axisAt_eq_some_iff.mp configured).1
      (Machine.rail?_eq_none_iff.mp (Option.isNone_iff_eq_none.mp absent))
  · rcases eq_error_of_bind refused with failed | ⟨_, -, impossible⟩
    · exact .of_couplePair arranged found failed
    · cases impossible

theorem Obstacle.of_caps {cause : Invalid α}
    (refused : ZCaps.ofSection toolhead machine.kinematics = .error cause) :
    Obstacle toolhead machine letters indices cause := by
  unfold ZCaps.ofSection at refused
  rcases eq_error_of_bind refused with velocity | ⟨_, -, refused⟩
  · exact .velocity (.of_refused velocity)
  · rcases eq_error_of_bind refused with accel | ⟨_, -, impossible⟩
    · exact .accel (.of_refused accel)
    · cases impossible

/-- A refused build reports an obstacle. -/
theorem exists_obstacle_of_build (accepted : machine.validate = .ok ()) {fault : Fault α}
    (refused : (build toolhead machine number queue letters indices).value.1 = .error fault) :
    ∃ cause, fault = .config (.invalid cause) ∧
      Obstacle toolhead machine letters indices cause := by
  rw [value_build] at refused
  cases arranged : AxisSet.arrange letters indices with
  | error axisFault =>
    simp only [arranged, Except.error.injEq] at refused
    exact ⟨_, refused.symm, .axes arranged⟩
  | ok set =>
    cases made : Assembly.make toolhead machine number queue set with
    | error cause =>
      simp only [arranged, made, Except.error.injEq] at refused
      exact ⟨_, refused.symm, .of_make accepted arranged made⟩
    | ok assembly =>
      cases capped : ZCaps.ofSection toolhead machine.kinematics with
      | error cause =>
        simp only [arranged, made, capped, Except.error.injEq] at refused
        exact ⟨_, refused.symm, .of_caps capped⟩
      | ok caps => simp [arranged, made, capped] at refused

/-- No obstacle stood in the way of a gantry that was built. -/
theorem not_obstacle_of_build {gantry : Gantry α}
    (built : (build toolhead machine number queue letters indices).value.1 = .ok gantry)
    (cause : Invalid α) : ¬ Obstacle toolhead machine letters indices cause := by
  rcases stages_of_build built with ⟨set, assembly, caps, arrangedHere, made, capped, -⟩
  have same {other : AxisSet} (arranged : AxisSet.arrange letters indices = .ok other) :
      other = set := Except.ok.inj (arranged.symm.trans arrangedHere)
  rcases ZCaps.capped_of_ofSection capped with ⟨velocityCapped, accelCapped⟩
  intro obstacle
  cases obstacle with
  | axes refused =>
    rw [arrangedHere] at refused
    cases refused
  | axisCount arranged few =>
    rw [same arranged] at few
    exact Nat.not_le_of_lt few (carried_of_make made)
  | railSection arranged listed absent =>
    rw [same arranged] at listed
    rcases set.exists_globalIndex listed with ⟨slot, sameIndex⟩
    have configured := set.axisAt_eq_some_iff.mpr ⟨listed, sameIndex.symm⟩
    rcases (Assembly.holds_of_make made slot).exists_rail configured with ⟨given, -, found, -⟩
    exact absent given (Machine.mem_rails_of_rail? found)
  | pair arranged coupled absent =>
    rw [same arranged, set.globalIndex_mem_indices_iff, set.isDummy_eq_false_iff] at absent
    rcases Assembly.pair_of_make made with ⟨first, second, atX, atY⟩
    apply absent
    rcases coupled with rfl | rfl
    · rcases (Assembly.holds_of_make made .x).exists_section atX with ⟨axis, -, configured, -⟩
      exact ⟨axis, configured⟩
    · rcases (Assembly.holds_of_make made .y).exists_section atY with ⟨axis, -, configured, -⟩
      exact ⟨axis, configured⟩
  | velocity outside => exact outside.not_accepted _ velocityCapped
  | accel outside => exact outside.not_accepted _ accelCapped

end Gantry

end

/-! ## Inferred directions -/

namespace Binary64

variable {first second : Float}

/-- What is at most another value and not below it equals it. -/
theorem beq_of_le_of_not_lt (below : first ≤ second) (notBelow : ¬ first < second) :
    (second == first) = true := by
  rcases le_iff_ranks.mp below with ⟨low, high, atFirst, atSecond, lowHigh⟩
  have notLess : ¬ low < high := fun less =>
    notBelow (lt_iff_ranks.mpr ⟨low, high, atFirst, atSecond, less⟩)
  rw [← lowHigh.eq_of_not_lt notLess] at atSecond
  exact beq_iff_ranks.mpr ⟨low, atSecond, atFirst⟩

theorem le_of_beq (same : (first == second) = true) : first ≤ second ∧ second ≤ first := by
  rcases beq_iff_ranks.mp same with ⟨placed, atFirst, atSecond⟩
  exact ⟨le_iff_ranks.mpr ⟨placed, placed, atFirst, atSecond, le_rfl⟩,
    le_iff_ranks.mpr ⟨placed, placed, atSecond, atFirst, le_rfl⟩⟩

end Binary64

/-- An inferred direction says at which end of the range the endstop is. -/
theorem RailSection.inferred_iff {given : RailSection Float} {positiveDir : Bool}
    (valid : given.validate = .ok ()) (inferred : given.homingPositiveDir = none)
    (directed : given.homingDirection = .ok positiveDir) :
    (positiveDir = true ↔ (given.positionEndstop == given.positionMax) = true) ∧
      (positiveDir = false ↔ (given.positionEndstop == given.positionMin) = true) := by
  rcases unrefused_of_validate valid with ⟨spans, notBelow, notAbove⟩
  unfold homingDirection at directed
  simp only [inferred] at directed
  by_cases atMax : given.positionMax ≤ given.positionEndstop
  · simp only [atMax, if_true, Except.ok.injEq] at directed
    subst directed
    refine ⟨iff_of_true rfl (Binary64.beq_of_le_of_not_lt atMax notAbove),
      iff_of_false nofun fun atMin => spans ?_⟩
    exact Binary64.le_trans atMax (Binary64.le_of_beq atMin).1
  · simp only [atMax, if_false] at directed
    by_cases atMin : given.positionEndstop ≤ given.positionMin
    · simp only [atMin, if_true, Except.ok.injEq] at directed
      subst directed
      refine ⟨iff_of_false nofun fun same => atMax (Binary64.le_of_beq same).2,
        iff_of_true rfl ?_⟩
      have same := Binary64.beq_of_le_of_not_lt atMin notBelow
      rcases Binary64.beq_iff_ranks.mp same with ⟨placed, low, endstop⟩
      exact Binary64.beq_iff_ranks.mpr ⟨placed, endstop, low⟩
    · simp [atMin] at directed

/-! ## The two checks of a machine -/

/-- The fault of a rail is worded as that of its section, behind the name of the rail. -/
theorem Invalid.message_inSection (cause : Invalid Float) (name : String) :
    (inSection name cause).message =
      "[" ++ name ++ "] " ++ (ConfigFault.invalid cause).message := by
  have regrouped (before heading colon text : String) :
      before ++ heading ++ colon ++ text = before ++ (heading ++ colon ++ text) := by
    simp only [String.append_assoc]
  exact regrouped _ _ _ _

namespace Gantry

/-- A rail is refused exactly with its section, for the same cause behind the name of the
rail.  A section that passed has a direction; one that was inferred tells at which end of
the range the endstop is.  So a gantry of an accepted machine, on whatever toolhead, is
refused exactly if there is an obstacle, none of which is in the section of a rail, and the
refusal reports an obstacle. -/
theorem refused_iff_obstacle :
    (∀ (number : Nat) (letter : Char) (given : RailSection Float),
      (∀ fault, Rail.ofSection number letter given = .error fault ↔
        ∃ cause, given.validate = .error cause ∧
          fault = .inSection (railName letter.toString) cause) ∧
      (∀ cause, (Invalid.inSection (railName letter.toString) cause).message =
        "[" ++ railName letter.toString ++ "] " ++ (ConfigFault.invalid cause).message) ∧
      (given.validate = .ok () → ∃ rail, Rail.ofSection number letter given = .ok rail ∧
        given.homingDirection = .ok rail.positiveDir ∧
        (given.homingPositiveDir = none →
          (rail.positiveDir = true ↔ (given.positionEndstop == given.positionMax) = true) ∧
          (rail.positiveDir = false ↔ (given.positionEndstop == given.positionMin) = true)))) ∧
    ∀ machine : Machine Float, machine.validate = .ok () →
      ∀ (toolhead : Toolhead Float) (number : Nat) (queue : Option MotionQueue)
        (letters : String) (indices : List Nat),
      let outcome := (build toolhead machine number queue letters indices).value.1
      ((∃ fault, outcome = .error fault) ↔
        ∃ cause, Obstacle toolhead machine letters indices cause) ∧
      ∀ fault, outcome = .error fault → ∃ cause, fault = .config (.invalid cause) ∧
        Obstacle toolhead machine letters indices cause := by
  constructor
  · intro number letter given
    refine ⟨fun fault => Rail.ofSection_eq_error_iff, fun cause => ?_, fun valid => ?_⟩
    · exact cause.message_inSection _
    · rcases Rail.exists_ofSection number letter given valid with ⟨rail, made⟩
      have directed := (Rail.made_of_ofSection made).1.direction
      exact ⟨rail, made, directed,
        fun inferred => RailSection.inferred_iff valid inferred directed⟩
  · intro machine accepted toolhead number queue letters indices outcome
    have reported (fault : Fault Float) (refused : outcome = .error fault) :=
      exists_obstacle_of_build accepted refused
    refine ⟨⟨?_, ?_⟩, reported⟩
    · rintro ⟨fault, refused⟩
      rcases reported fault refused with ⟨cause, -, obstacle⟩
      exact ⟨cause, obstacle⟩
    · rintro ⟨cause, obstacle⟩
      cases built : outcome with
      | error fault => exact ⟨fault, rfl⟩
      | ok gantry => exact absurd obstacle (not_obstacle_of_build built cause)

theorem isSome_arrange_withoutSecond :
    (AxisSet.arrange "XZ" [0, 2]).toOption.isSome = true := by
  decide

/-- Without its second axis a gantry is refused, and with all three axes nothing stands in
its way. -/
theorem refused_iff_obstacle_benchtop :
    (∃ fault, (build .benchtop .benchtop 0 none "XZ" [0, 2]).value.1 = .error fault) ∧
      (¬ ∃ cause, Obstacle .benchtop .benchtop "XYZ" [0, 1, 2] cause) ∧
      ∃ rail : Rail Float, Rail.ofSection 0 'X' ⟨[], 0.0, 200.0, 200.0, none⟩ = .ok rail ∧
        rail.positiveDir = true := by
  rcases refused_iff_obstacle with ⟨sections, builds⟩
  refine ⟨?_, ?_, ?_⟩
  · have arranged := eq_ok_of_toOption (Option.some_get isSome_arrange_withoutSecond).symm
    have obstacle : Obstacle .benchtop .benchtop "XZ" [0, 2] _ :=
      .pair arranged (.inr rfl) (by decide)
    exact (builds .benchtop Session.validate_benchtop .benchtop 0 none "XZ" [0, 2]).1.mpr
      ⟨_, obstacle⟩
  · intro obstacle
    rcases (builds .benchtop Session.validate_benchtop .benchtop 0 none "XYZ" [0, 1, 2]).1.mpr
      obstacle with ⟨fault, refused⟩
    rw [build_benchtop] at refused
    cases refused
  · rcases (sections 0 'X' ⟨[], 0.0, 200.0, 200.0, none⟩).2.2 rfl with
      ⟨rail, made, -, inferred⟩
    exact ⟨rail, made, (inferred rfl).1.mpr (by decide)⟩

end Gantry

end BeltGantry

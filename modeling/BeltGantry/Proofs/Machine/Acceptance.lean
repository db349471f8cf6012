import BeltGantry.Proofs.Session.Verdict
namespace BeltGantry

/-!
# What an accepted machine guarantees

Each check of a machine refuses a comparison that holds.  That a check passed
therefore gives the opposite comparison only for values that can be compared,
which are all but NaN: a machine is accepted with a NaN in the place of any
number.  So an accepted machine is well formed exactly if its numbers are
numbers, and an axis that was homed is reported as homed exactly if the ends of
its rail are.
-/

/-! ## What the checks refuse -/

section

variable {α : Type} [Scalar α]

theorem Machine.printer_of_validate {machine : Machine α} (accepted : machine.validate = .ok ()) :
    machine.printer.validate = .ok () := by
  unfold validate at accepted
  split at accepted
  · cases accepted
  · split at accepted
    · cases accepted
    · assumption

theorem PrinterSection.unrefused_of_validate {printer : PrinterSection α}
    (accepted : printer.validate = .ok ()) :
    ¬ printer.maxVelocity ≤ (0.0 : α) ∧ ¬ printer.maxAccel ≤ (0.0 : α) := by
  unfold validate at accepted
  by_cases still : printer.maxVelocity ≤ (0.0 : α)
  · simp [still] at accepted
  · by_cases idle : printer.maxAccel ≤ (0.0 : α)
    · simp [still, idle] at accepted
    · exact ⟨still, idle⟩

theorem unrefused_of_cappedValue {name : String} {value : Option α} {maximum cap : α}
    (accepted : cappedValue name value maximum = .ok cap) :
    cap = value.getD maximum ∧ ¬ cap ≤ (0.0 : α) ∧ ¬ maximum < cap := by
  unfold cappedValue at accepted
  by_cases still : value.getD maximum ≤ (0.0 : α)
  · simp [still] at accepted
  · by_cases above : maximum < value.getD maximum
    · simp [still, above] at accepted
    · simp only [still, above, if_false, Except.ok.injEq] at accepted
      subst accepted
      exact ⟨rfl, still, above⟩

theorem ZCaps.capped_of_ofSection {toolhead : Toolhead α} {given : KinematicsSection α}
    {caps : ZCaps α} (accepted : ofSection toolhead given = .ok caps) :
    cappedValue "max_z_velocity" given.maxZVelocity toolhead.maxVelocity =
        .ok caps.maxVelocity ∧
      cappedValue "max_z_accel" given.maxZAccel toolhead.maxAccel = .ok caps.maxAccel := by
  unfold ofSection at accepted
  rcases exists_of_bind_eq_ok accepted with ⟨maxVelocity, velocity, accepted⟩
  rcases exists_of_bind_eq_ok accepted with ⟨maxAccel, accel, accepted⟩
  rw [← Except.ok.inj accepted]
  exact ⟨velocity, accel⟩

theorem RailSection.unrefused_of_validate {given : RailSection α}
    (accepted : given.validate = .ok ()) :
    ¬ given.positionMax ≤ given.positionMin ∧
      ¬ given.positionEndstop < given.positionMin ∧
      ¬ given.positionMax < given.positionEndstop := by
  unfold validate at accepted
  by_cases empty : given.positionMax ≤ given.positionMin
  · simp [empty] at accepted
  · by_cases outside : given.positionEndstop < given.positionMin ∨
        given.positionMax < given.positionEndstop
    · simp [empty, outside] at accepted
    · exact ⟨empty, not_or.mp outside⟩

end

/-! ## Numbers that compare -/

namespace Binary64

theorem isNaN_zero : (0.0 : Float).isNaN = false := by
  decide

/-- A value that was not refused for being at most zero is above zero, or NaN. -/
theorem pos_iff_of_not_le {value : Float} (refused : ¬ value ≤ 0.0) :
    0.0 < value ↔ value.isNaN = false := by
  rw [lt_iff_of_not_le refused]
  exact and_iff_right isNaN_zero

end Binary64

/-- A cap that was not refused lies where it should, exactly if the value that
was given for it is a number. -/
theorem capped_iff {name : String} {value : Option Float} {maximum cap : Float}
    (accepted : cappedValue name value maximum = .ok cap) (numeric : maximum.isNaN = false) :
    0.0 < cap ∧ cap ≤ maximum ↔ ∀ given, value = some given → given.isNaN = false := by
  rcases unrefused_of_cappedValue accepted with ⟨same, positive, bounded⟩
  rw [Binary64.pos_iff_of_not_le positive, Binary64.le_iff_of_not_lt bounded]
  cases value with
  | none =>
    change cap = maximum at same
    subst same
    constructor
    · intro _ given absent
      cases absent
    · intro _
      exact ⟨numeric, numeric, numeric⟩
  | some given =>
    change cap = given at same
    subst same
    constructor
    · intro numbers other sameGiven
      rw [← Option.some.inj sameGiven]
      exact numbers.1
    · intro numbers
      have capNumeric := numbers cap rfl
      exact ⟨capNumeric, capNumeric, numeric⟩

/-- A section that passed its checks has its range and endstop in order, exactly
if they are numbers. -/
theorem RailSection.ordered_iff {given : RailSection Float} (accepted : given.validate = .ok ()) :
    given.positionMin < given.positionMax ∧ given.positionMin ≤ given.positionEndstop ∧
        given.positionEndstop ≤ given.positionMax ↔
      given.positionMin.isNaN = false ∧ given.positionMax.isNaN = false ∧
        given.positionEndstop.isNaN = false := by
  rcases unrefused_of_validate accepted with ⟨unempty, above, below⟩
  rw [Binary64.lt_iff_of_not_le unempty, Binary64.le_iff_of_not_lt above,
    Binary64.le_iff_of_not_lt below]
  tauto

/-- A rail made from a section that passed its checks counts as homed over its
range, exactly if the ends of the range are numbers. -/
theorem Rail.MadeFrom.isHomed_range_iff {rail : Rail Float} {given : RailSection Float}
    (made : rail.MadeFrom given) :
    rail.range.isHomed = true ↔
      rail.positionMin.isNaN = false ∧ rail.positionMax.isNaN = false := by
  have unempty := (RailSection.unrefused_of_validate made.valid).1
  rw [← made.positionMin, ← made.positionMax] at unempty
  have notBelow : ¬ rail.positionMax < rail.positionMin :=
    fun below => unempty (Binary64.le_of_lt below)
  exact decide_eq_true_iff.trans (Binary64.le_iff_of_not_lt notBelow)

/-! ## Accepted machines -/

/-- What the numbers of a machine should satisfy once a gantry is built from it. -/
structure Gantry.WellFormed (gantry : Gantry Float) (printer : PrinterSection Float) : Prop where
  velocity : 0.0 < printer.maxVelocity
  accel : 0.0 < printer.maxAccel
  zVelocity : 0.0 < gantry.caps.maxVelocity ∧ gantry.caps.maxVelocity ≤ printer.maxVelocity
  zAccel : 0.0 < gantry.caps.maxAccel ∧ gantry.caps.maxAccel ≤ printer.maxAccel
  rails : ∀ slot rail, gantry.rails.get slot = some rail →
    rail.positionMin < rail.positionMax ∧ rail.positionMin ≤ rail.positionEndstop ∧
      rail.positionEndstop ≤ rail.positionMax

/-- No number that a gantry with these axes takes from the machine is NaN. -/
structure Machine.IsNumeric (machine : Machine Float) (set : AxisSet) : Prop where
  velocity : machine.printer.maxVelocity.isNaN = false
  accel : machine.printer.maxAccel.isNaN = false
  zVelocity : ∀ cap, machine.kinematics.maxZVelocity = some cap → cap.isNaN = false
  zAccel : ∀ cap, machine.kinematics.maxZAccel = some cap → cap.isNaN = false
  rails : ∀ slot axis given, set.axisAt slot = some axis →
    machine.rail? axis.letter = some given →
    given.positionMin.isNaN = false ∧ given.positionMax.isNaN = false ∧
      given.positionEndstop.isNaN = false

namespace Gantry

variable {machine : Machine Float} {number : Nat} {queue : Option MotionQueue}
  {letters : String} {indices : List Nat} {gantry : Gantry Float}

/-- The rails of a gantry have their measures in order, exactly if the sections
that they come from hold numbers. -/
theorem rails_ordered_iff {toolhead : Toolhead Float}
    (built : (build toolhead machine number queue letters indices).value.1 = .ok gantry) :
    (∀ slot rail, gantry.rails.get slot = some rail →
      rail.positionMin < rail.positionMax ∧ rail.positionMin ≤ rail.positionEndstop ∧
        rail.positionEndstop ≤ rail.positionMax) ↔
    ∀ slot axis given, gantry.axisSet.axisAt slot = some axis →
      machine.rail? axis.letter = some given →
      given.positionMin.isNaN = false ∧ given.positionMax.isNaN = false ∧
        given.positionEndstop.isNaN = false := by
  constructor
  · intro ordered slot axis given configured found
    rcases (holds_of_build built slot).exists_rail configured with
      ⟨other, rail, foundOther, held, made⟩
    have same : other = given := Option.some.inj (foundOther.symm.trans found)
    subst same
    have inOrder := ordered slot rail held
    rw [made.positionMin, made.positionMax, made.positionEndstop] at inOrder
    exact (RailSection.ordered_iff made.valid).mp inOrder
  · intro numeric slot rail held
    rcases (holds_of_build built slot).exists_section held with
      ⟨axis, given, configured, found, made⟩
    rw [made.positionMin, made.positionMax, made.positionEndstop]
    exact (RailSection.ordered_iff made.valid).mpr (numeric slot axis given configured found)

/-- What was built from an accepted machine is well formed exactly if the
numbers of the machine are numbers. -/
theorem wellFormed_iff_isNumeric (accepted : machine.validate = .ok ())
    (built : (build (.ofPrinter machine.printer) machine number queue letters
      indices).value.1 = .ok gantry) :
    gantry.WellFormed machine.printer ↔ machine.IsNumeric gantry.axisSet := by
  rcases PrinterSection.unrefused_of_validate (Machine.printer_of_validate accepted) with
    ⟨moving, starting⟩
  rcases ZCaps.capped_of_ofSection (caps_of_build built) with ⟨velocityCapped, accelCapped⟩
  have velocity := Binary64.pos_iff_of_not_le moving
  have accel := Binary64.pos_iff_of_not_le starting
  have rails := rails_ordered_iff built
  constructor
  · intro formed
    have velocityNumeric := velocity.mp formed.velocity
    have accelNumeric := accel.mp formed.accel
    exact ⟨velocityNumeric, accelNumeric,
      (capped_iff velocityCapped velocityNumeric).mp formed.zVelocity,
      (capped_iff accelCapped accelNumeric).mp formed.zAccel, rails.mp formed.rails⟩
  · intro numeric
    exact ⟨velocity.mpr numeric.velocity, accel.mpr numeric.accel,
      (capped_iff velocityCapped numeric.velocity).mpr numeric.zVelocity,
      (capped_iff accelCapped numeric.accel).mpr numeric.zAccel, rails.mpr numeric.rails⟩

/-- After a coordinate was set with an axis listed, its slot is reported as homed
exactly if the ends of its rail are numbers, whatever became of the gantry
between. -/
theorem lists_setPosition_iff {toolhead : Toolhead Float}
    (built : (build toolhead machine number queue letters indices).value.1 = .ok gantry)
    {later : Gantry Float} (same : gantry.SameRails later) {position : Point Float}
    {axes : List Nat} (succeeded : (later.setPosition position axes).value.1 = .ok ())
    {slot : Slot} (listed : gantry.axisSet.globalIndex slot ∈ axes) (time : Float) :
    ∃ rail, gantry.rails.get slot = some rail ∧
      (((later.setPosition position axes).value.2.status time).value.lists slot = true ↔
        rail.positionMin.isNaN = false ∧ rail.positionMax.isNaN = false) := by
  have homes : Touch.ofHoming? axes (later.axisSet.globalIndex slot)
      (later.setPosition position axes).value.1 = some .homed := by
    rw [succeeded, same.axisSet]
    simp [Touch.ofHoming?, listed]
  have configured : gantry.axisSet.isDummy slot = false :=
    same.axisSet ▸ later.isDummy_of_ofHoming? position homes
  rcases gantry.axisSet.isDummy_eq_false_iff.mp configured with ⟨axis, held⟩
  rcases (holds_of_build built slot).exists_rail held with ⟨given, rail, -, railHeld, made⟩
  have ranged : later.railRange? slot = some rail.range :=
    (same.railRange? slot).trans (railRange?_of_held railHeld)
  have limit : (later.setPosition position axes).value.2.limits.get slot = rail.range := by
    rw [later.limits_setPosition position axes slot, homes, touched_homed ranged]
  have axisSet : (later.setPosition position axes).value.2.axisSet = gantry.axisSet :=
    (later.sameRails_setPosition position axes).axisSet.trans same.axisSet
  refine ⟨rail, railHeld, ?_⟩
  rw [lists_status, limit, axisSet, configured, Bool.not_false, Bool.and_true]
  exact made.isHomed_range_iff

end Gantry

/-- The small machine with a speed that is not a number. -/
def Machine.speedless : Machine Float :=
  { Machine.benchtop with printer := { maxVelocity := 0.0 / 0.0, maxAccel := 3000.0 } }

namespace Session

/-- A gantry that was built from an accepted machine is well formed exactly if no
number of the machine is NaN.  In any session that the gantry becomes part of,
setting a coordinate with one of its axes listed leaves the slot of the axis
reported as homed exactly if no end of the rail is NaN. -/
theorem wellFormed_of_accepted (machine : Machine Float) (letters : String)
    (indices : List Nat) (queue : Option MotionQueue) (place : Nat) (gantry : Gantry Float)
    (accepted : machine.validate = .ok ())
    (built : (Gantry.build (.ofPrinter machine.printer) machine place queue letters
      indices).value.1 = .ok gantry) :
    (gantry.WellFormed machine.printer ↔ machine.IsNumeric gantry.axisSet) ∧
    ∀ (session : Session Float) number, session.gantry? number = some gantry →
      ∀ requests later, gantry? (session.run requests) number = some later →
      ∀ position axes, (later.setPosition position axes).value.1 = .ok () →
      ∀ slot, gantry.axisSet.globalIndex slot ∈ axes → ∀ time,
      ∃ rail, gantry.rails.get slot = some rail ∧
        (((later.setPosition position axes).value.2.status time).value.lists slot = true ↔
          rail.positionMin.isNaN = false ∧ rail.positionMax.isNaN = false) := by
  refine ⟨Gantry.wellFormed_iff_isNumeric accepted built, ?_⟩
  intro session number held requests later heldLater position axes succeeded slot listed time
  rcases exists_gantry?_run held requests with ⟨after, heldAfter, same⟩
  have sameGantry : after = later := Option.some.inj (heldAfter.symm.trans heldLater)
  subst sameGantry
  exact Gantry.lists_setPosition_iff built same succeeded listed time

theorem validate_benchtop : Machine.benchtop.validate = .ok () :=
  eq_ok_of_toOption (by decide)

theorem measures_benchtop {slot : Slot} {rail : Rail Float}
    (held : Gantry.benchtop.rails.get slot = some rail) :
    rail.positionMin = 0.0 ∧ rail.positionMax = 200.0 ∧ rail.positionEndstop = 0.0 := by
  have measures : (Gantry.benchtop.rails.get slot).map (fun rail =>
      (rail.positionMin, rail.positionMax, rail.positionEndstop)) = some (0.0, 200.0, 0.0) := by
    cases slot <;> decide
  rw [held] at measures
  simpa using measures

theorem wellFormed_of_accepted_benchtop :
    Machine.benchtop.IsNumeric Gantry.benchtop.axisSet ∧
      ((Gantry.benchtop.setPosition ⟨10.0, 20.0, 5.0⟩ [1]).value.2.status 1.0).value.lists .y =
        true := by
  rcases wellFormed_of_accepted .benchtop "XYZ" [0, 1, 2] none 0 .benchtop
    validate_benchtop build_benchtop with ⟨formed, homed⟩
  refine ⟨formed.mp ⟨by decide +kernel, by decide +kernel, by decide +kernel, by decide +kernel,
    fun slot rail held => ?_⟩, ?_⟩
  · rcases measures_benchtop held with ⟨low, high, endstop⟩
    rw [low, high, endstop]
    decide +kernel
  · have succeeded : (Gantry.benchtop.setPosition ⟨10.0, 20.0, 5.0⟩ [1]).value.1 = .ok () :=
      eq_ok_of_toOption (by decide +kernel)
    rcases homed { toolhead := .benchtop, gantries := [some .benchtop] } 0 rfl [] .benchtop rfl
        ⟨10.0, 20.0, 5.0⟩ [1] succeeded .y (by decide +kernel) 1.0 with
      ⟨rail, held, reported⟩
    rcases measures_benchtop held with ⟨low, high, -⟩
    rw [reported, low, high]
    decide +kernel

/-- Not every gantry of an accepted machine is well formed. -/
theorem not_wellFormed_of_accepted :
    ¬ ∀ (machine : Machine Float) (letters : String) (indices : List Nat)
      (queue : Option MotionQueue) (place : Nat) (gantry : Gantry Float),
      machine.validate = .ok () →
      (Gantry.build (.ofPrinter machine.printer) machine place queue letters
        indices).value.1 = .ok gantry →
      gantry.WellFormed machine.printer := by
  intro sound
  have accepted : Machine.speedless.validate = .ok () := eq_ok_of_toOption (by decide +kernel)
  have present : (Gantry.build (.ofPrinter Machine.speedless.printer) .speedless 0 none "XYZ"
      [0, 1, 2]).value.1.toOption.isSome = true := by
    decide +kernel
  rcases Option.isSome_iff_exists.mp present with ⟨gantry, built⟩
  have formed := sound .speedless "XYZ" [0, 1, 2] none 0 gantry accepted (eq_ok_of_toOption built)
  have unordered : ¬ (0.0 : Float) < Machine.speedless.printer.maxVelocity := by decide +kernel
  exact unordered formed.velocity

end Session

end BeltGantry

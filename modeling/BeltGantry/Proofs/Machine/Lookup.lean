import BeltGantry.Proofs.Gantry.Measurement
import BeltGantry.Proofs.Machine.Obstacle
namespace BeltGantry

/-!
# The sections of letters

A section belongs to a rail by its name, and names are in lower case.  The checks of a
machine make the name from the key of the section, whatever the case of the key; a lookup
lowers the letter that is looked up and takes the keys as they are.  The two agree as long
as keys are in lower case.  A section under a key with a capital in it is checked under the
name of its rail all the same, but no letter finds it, and a gantry that needs the rail
reports the section of that name as missing.
-/

/-! ## Names -/

theorem lowered_lowered (text : String) : Text.lowered (Text.lowered text) = Text.lowered text := by
  unfold Text.lowered
  rw [String.map_map]
  congr 1
  funext letter
  exact letter.toLower_toLower_eq_toLower

variable {α : Type}

namespace Machine

/-- A machine has a section for a letter under a key in lower case. -/
def HasSection (machine : Machine α) (letter : Char) : Prop :=
  ∃ entry ∈ machine.rails,
    railName entry.1 = railName letter.toString ∧ Text.lowered entry.1 = entry.1

theorem key_eq_iff {key : String} {letter : Char} :
    railName key = railName letter.toString ∧ Text.lowered key = key ↔
      key = letter.toLower.toString := by
  rw [railName_eq_iff, ← lowered_toString]
  constructor
  · rintro ⟨same, lower⟩
    rw [← lower, same]
  · rintro rfl
    exact ⟨lowered_lowered _, lowered_lowered _⟩

section

variable {machine : Machine α} {letter : Char}

/-- A letter finds a section exactly if one is there under a key in lower case. -/
theorem exists_rail?_iff : (∃ given, machine.rail? letter = some given) ↔
    machine.HasSection letter := by
  constructor
  · rintro ⟨given, found⟩
    exact ⟨_, mem_rails_of_rail? found, key_eq_iff.mpr rfl⟩
  · rintro ⟨⟨key, given⟩, listed, matched⟩
    have lower : key = letter.toLower.toString := key_eq_iff.mp matched
    rw [lower] at listed
    rw [← Option.ne_none_iff_exists']
    exact fun absent => rail?_eq_none_iff.mp absent given listed

theorem rail?_congr {other : Char} (same : railName letter.toString = railName other.toString) :
    machine.rail? letter = machine.rail? other := by
  rw [railName_eq_iff, lowered_toString, lowered_toString] at same
  rw [rail?, rail?, same]

end

variable [Scalar α]

/-- A section that is refused is reported under the name of its rail. -/
theorem exists_of_validateRails {sections : List (String × RailSection α)} {fault : Invalid α}
    (refused : validateRails sections = .error fault) :
    ∃ entry ∈ sections, ∃ cause, entry.2.validate = .error cause ∧
      fault = .inSection (railName entry.1) cause := by
  induction sections with
  | nil => cases refused
  | cons entry rest inductionHypothesis =>
    unfold validateRails at refused
    cases checked : entry.2.validate with
    | error cause =>
      simp only [checked, Except.error.injEq] at refused
      exact ⟨entry, List.mem_cons_self, cause, checked, refused.symm⟩
    | ok _ =>
      simp only [checked] at refused
      rcases inductionHypothesis refused with ⟨later, listed, found⟩
      exact ⟨later, List.mem_cons_of_mem _ listed, found⟩

/-- Only sections of rails are reported by a name. -/
theorem exists_of_validate {machine : Machine α} {name : String} {cause : Invalid α}
    (refused : machine.validate = .error (.inSection name cause)) :
    ∃ entry ∈ machine.rails, name = railName entry.1 ∧ entry.2.validate = .error cause := by
  have ofRails : validateRails machine.rails = .error (.inSection name cause) := by
    unfold validate at refused
    cases shared : (machine.shared.validate : Except (Invalid α) Unit) with
    | error other =>
      simp only [shared, Except.error.injEq] at refused
      rw [refused] at shared
      unfold SharedSection.validate at shared
      split at shared <;> cases shared
    | ok _ =>
      cases printer : machine.printer.validate with
      | error other =>
        simp only [shared, printer, Except.error.injEq] at refused
        rw [refused] at printer
        unfold PrinterSection.validate at printer
        repeat' split at printer
        all_goals cases printer
      | ok _ => simpa only [shared, printer] using refused
  rcases exists_of_validateRails ofRails with ⟨entry, listed, _, checked, same⟩
  cases same
  exact ⟨entry, listed, rfl, checked⟩

end Machine

namespace Gantry

variable [Scalar α] {toolhead : Toolhead α} {machine : Machine α} {number : Nat}
  {queue : Option MotionQueue} {set : AxisSet} {letter : Char}

theorem rail?_of_railAt {slot : Slot}
    (missing : Assembly.railAt machine number set slot = .error (.missingSection letter)) :
    machine.rail? letter = none := by
  unfold Assembly.railAt at missing
  cases configured : set.axisAt slot with
  | none => simp [configured] at missing
  | some axis =>
    cases found : machine.rail? axis.letter with
    | none =>
      simp only [configured, found, Except.error.injEq, Invalid.missingSection.injEq] at missing
      rw [← missing, found]
    | some given =>
      cases made : Rail.ofSection (tripletSize * number + slot.index) axis.letter given with
      | ok rail => simp [configured, found, made, Except.map] at missing
      | error fault =>
        -- A section that is there can only be refused for what is in it.
        rcases Rail.ofSection_eq_error_iff.mp made with ⟨cause, -, rfl⟩
        simp [configured, found, made, Except.map] at missing

/-- The rails of an accepted machine are refused for the first axis, in slot order, that
lacks its section. -/
theorem mapM_railAt_eq_error_iff (accepted : machine.validate = .ok ()) {cause : Invalid α} :
    Slot.all.mapM (Assembly.railAt machine number set) = .error cause ↔
      ∃ axis, (Slot.all.filterMap set.axisAt).find?
          (fun axis => (machine.rail? axis.letter).isNone) = some axis ∧
        cause = .missingSection axis.letter :=
  mapM_held_eq_error_iff fun _ _ => railAt_eq_error_iff accepted

/-- What an assembly that lacks a section is refused for. -/
theorem make_eq_missingSection_iff :
    Assembly.make toolhead machine number queue set = .error (.missingSection letter) ↔
      tripletSize * (set.number + 1) ≤ toolhead.axisCount ∧
        Slot.all.mapM (Assembly.railAt machine number set) = .error (.missingSection letter) := by
  unfold Assembly.make Assembly.checkAxisCount
  by_cases few : toolhead.axisCount < tripletSize * (set.number + 1)
  · simp [few, bind, Except.bind, Nat.not_le_of_lt few]
  · simp only [few, if_false, Nat.le_of_not_lt few, true_and]
    apply bind_slots_eq_error_iff.trans
    apply or_iff_left
    rintro ⟨rails, -, refused⟩
    rcases eq_error_of_bind refused with failed | ⟨_, -, impossible⟩
    · unfold Assembly.couplePair at failed
      split at failed <;> cases failed
    · cases impossible

theorem build_eq_missingSection_iff {letters : String} {indices : List Nat} :
    (build toolhead machine number queue letters indices).value.1 =
        .error (.config (.invalid (.missingSection letter))) ↔
      ∃ set, AxisSet.arrange letters indices = .ok set ∧
        Assembly.make toolhead machine number queue set = .error (.missingSection letter) := by
  rw [value_build]
  cases AxisSet.arrange letters indices with
  | error fault => simp
  | ok set =>
    cases made : Assembly.make toolhead machine number queue set with
    | error cause => simp [made]
    | ok assembly =>
      cases capped : ZCaps.ofSection toolhead machine.kinematics with
      | ok caps => simp [made]
      | error cause =>
        have other : cause ≠ .missingSection letter := by
          rintro rfl
          unfold ZCaps.ofSection at capped
          rcases eq_error_of_bind capped with velocity | ⟨_, -, capped⟩
          · cases CapOutside.of_refused velocity
          rcases eq_error_of_bind capped with accel | ⟨_, -, impossible⟩
          · cases CapOutside.of_refused accel
          · cases impossible
        simp [made, other]

end Gantry

/-- A section is matched by the name of its rail as long as its key is in lower case.  A
letter finds a section exactly if one of its name is there under such a key, and then finds
one of its name; letters of the same name find the same.  The checks report every section
under the name of its rail.  A gantry reports a section as missing only if the letter finds
none, and that of an accepted machine, provided that the toolhead carries its triplet, for
the first axis in slot order of which this is so. -/
theorem Machine.sections_matched [Scalar α] (machine : Machine α) :
    (∀ letter, (∃ given, machine.rail? letter = some given) ↔ machine.HasSection letter) ∧
    (∀ letter given, machine.rail? letter = some given →
      ∃ key, (key, given) ∈ machine.rails ∧ railName key = railName letter.toString) ∧
    (∀ letter other : Char, railName letter.toString = railName other.toString →
      machine.rail? letter = machine.rail? other) ∧
    (∀ name cause, machine.validate = .error (.inSection name cause) →
      ∃ entry ∈ machine.rails, name = railName entry.1 ∧ entry.2.validate = .error cause) ∧
    ∀ (toolhead : Toolhead α) (number : Nat) (queue : Option MotionQueue) (letters : String)
      (indices : List Nat) (letter : Char),
      let missing := (Gantry.build toolhead machine number queue letters indices).value.1 =
        .error (.config (.invalid (.missingSection letter)))
      (missing → ¬ machine.HasSection letter) ∧
      (machine.validate = .ok () → (missing ↔
        ∃ set, AxisSet.arrange letters indices = .ok set ∧
          tripletSize * (set.number + 1) ≤ toolhead.axisCount ∧
          ∃ axis, (Slot.all.filterMap set.axisAt).find?
              (fun axis => (machine.rail? axis.letter).isNone) = some axis ∧
            axis.letter = letter)) := by
  refine ⟨fun letter => exists_rail?_iff, fun letter given found => ?_, fun letter other => rail?_congr,
    fun name cause => exists_of_validate, ?_⟩
  · exact ⟨_, mem_rails_of_rail? found, (key_eq_iff.mpr rfl).1⟩
  · intro toolhead number queue letters indices letter missing
    have exactly : missing ↔ _ := Gantry.build_eq_missingSection_iff
    simp only [Gantry.make_eq_missingSection_iff] at exactly
    refine ⟨fun reported => ?_, fun accepted => ?_⟩
    · rcases exactly.mp reported with ⟨set, -, -, refused⟩
      rcases exists_of_mapM_eq_error refused with ⟨slot, -, absent⟩
      rw [← exists_rail?_iff, Gantry.rail?_of_railAt absent]
      exact nofun
    · simp only [Gantry.mapM_railAt_eq_error_iff accepted, Invalid.missingSection.injEq] at exactly
      simpa only [eq_comm] using exactly

/-- A machine that has the section of its first rail under a capital letter. -/
def Machine.capitalKey : Machine Float :=
  let rail : RailSection Float :=
    { positionMin := 0.0, positionMax := 200.0, positionEndstop := 0.0 }
  { printer := { maxVelocity := 300.0, maxAccel := 3000.0 }
    rails := [("X", rail), ("y", rail), ("z", rail)] }

theorem Machine.validate_capitalKey : Machine.capitalKey.validate = .ok () :=
  eq_ok_of_toOption (by decide)

theorem isSome_arrange_benchtop : (AxisSet.arrange "XYZ" [0, 1, 2]).toOption.isSome = true := by
  decide

/-- The same machine with an empty range for its first rail. -/
def Machine.emptyRange : Machine Float :=
  { Machine.capitalKey with
    rails := [("X", { positionMin := 0.0, positionMax := 0.0, positionEndstop := 0.0 })] }

theorem Machine.sections_matched_capitalKey :
    (∃ key given, (key, given) ∈ Machine.capitalKey.rails ∧ railName key = railName "Y") ∧
      Machine.capitalKey.rail? 'Y' = Machine.capitalKey.rail? 'y' ∧
      (∃ entry ∈ Machine.emptyRange.rails, railName "X" = railName entry.1) ∧
      (Gantry.build .benchtop .capitalKey 0 none "XYZ" [0, 1, 2]).value.1 =
        .error (.config (.invalid (.missingSection 'X'))) ∧
      ¬ Machine.capitalKey.HasSection 'X' := by
  rcases Machine.capitalKey.sections_matched with ⟨found, named, caseless, -, missing⟩
  rcases Machine.emptyRange.sections_matched with ⟨-, -, -, reported, -⟩
  have arranged := eq_ok_of_toOption (Option.some_get isSome_arrange_benchtop).symm
  have sameName : railName 'Y'.toString = railName 'y'.toString := by
    rw [railName_eq_iff, lowered_toString, lowered_toString]
    rfl
  have first : ((Slot.all.filterMap (Option.get _ isSome_arrange_benchtop).axisAt).find?
      fun axis => (Machine.capitalKey.rail? axis.letter).isNone).map Axis.letter = some 'X' := by
    decide
  have lowerKey : Machine.capitalKey.HasSection 'Y' :=
    ⟨_, List.mem_cons_of_mem _ List.mem_cons_self, Machine.key_eq_iff.mpr rfl⟩
  rcases (found 'Y').mpr lowerKey with ⟨given, held⟩
  rcases named 'Y' given held with ⟨key, listed, name⟩
  rcases reported (railName "X") (.emptyRange 0.0 0.0) rfl with ⟨entry, entryListed, entryName, -⟩
  rcases Option.map_eq_some_iff.mp first with ⟨axis, lacking, letter⟩
  rcases missing .benchtop 0 none "XYZ" [0, 1, 2] 'X' with ⟨unserved, exactly⟩
  have refused := (exactly Machine.validate_capitalKey).mpr
    ⟨_, arranged, by decide, axis, lacking, letter⟩
  exact ⟨⟨key, given, listed, name⟩, caseless 'Y' 'y' sameName, ⟨entry, entryListed, entryName⟩,
    refused, unserved refused⟩

/-- A section that is checked under the name of a rail may be found by no letter, and
reported as missing under that name. -/
theorem Machine.exists_section_not_found :
    Machine.capitalKey.validate = .ok () ∧
      (∃ entry ∈ Machine.capitalKey.rails, railName entry.1 = railName "X") ∧
      Machine.capitalKey.rail? 'X' = none ∧
      (Gantry.build .benchtop .capitalKey 0 none "XYZ" [0, 1, 2]).value.1 =
        .error (.config (.invalid (.missingSection 'X'))) :=
  ⟨Machine.validate_capitalKey, ⟨_, List.mem_cons_self, rfl⟩, rfl, rfl⟩

end BeltGantry

import BeltGantry.Gantry.Build
import BeltGantry.Proofs.Axis.Layout
import BeltGantry.Proofs.Failure
import BeltGantry.Proofs.Rail.Making
namespace BeltGantry

/-!
# What building yields

Building is a chain of checks, each of which can end it.  The theorems here take
the chain apart once: `value_build` gives the outcome as a function of the axis
set, the assembly and the caps, `describes_of_make` gives what a successful
assembly holds in each slot.  A slot without an axis stays without a rail; every
other slot holds a rail that was made from the section of its letter, bound and
attached, and the rails of the pair stop each other's steppers.  Most results need
less than that, namely `Holds`: the rail has the measures of its section, and the
section passed its checks.
-/

/-! ## Slot after slot -/

/-- A rule that refuses what some slots hold, carried out slot by slot, reports the first
of it. -/
theorem mapM_held_eq_error_iff {ε β δ : Type} {rule : Slot → Except ε β} {held : Slot → Option δ}
    {lacking : δ → Bool} {report : δ → ε}
    (refuses : ∀ slot fault, rule slot = .error fault ↔
      ∃ content, held slot = some content ∧ lacking content = true ∧ fault = report content)
    {slots : List Slot} {fault : ε} :
    slots.mapM rule = .error fault ↔
      ∃ content, (slots.filterMap held).find? lacking = some content ∧
        fault = report content := by
  have reported : ∀ slot,
      (∃ fault, rule slot = .error fault) ↔ (held slot).any lacking = true := by
    intro slot
    simp only [refuses, Option.any_eq_true]
    exact ⟨fun ⟨_, content, found, lacks, _⟩ => ⟨content, found, lacks⟩,
      fun ⟨content, found, lacks⟩ => ⟨_, content, found, lacks, rfl⟩⟩
  rw [mapM_eq_error_iff, firstFailing?_eq_find? reported, List.find?_filterMap]
  simp only [refuses, Option.bind_eq_some_iff]
  constructor
  · rintro ⟨slot, first, content, found, -, rfl⟩
    exact ⟨content, ⟨slot, first, found⟩, rfl⟩
  · rintro ⟨content, ⟨slot, first, found⟩, rfl⟩
    have lacks := List.find?_some first
    simp only [found, Option.any_some] at lacks
    exact ⟨slot, first, content, found, lacks, rfl⟩

/-- Three slots that are worked through before something else is done. -/
theorem bind_slots_eq_error_iff {ε β γ : Type} {rule : Slot → Except ε β}
    {next : β → β → β → Except ε γ} {fault : ε} :
    (rule .x >>= fun x => rule .y >>= fun y => rule .z >>= fun z => next x y z) =
        .error fault ↔
      Slot.all.mapM rule = .error fault ∨
        ∃ triplet : Triplet β, (∀ slot, rule slot = .ok (triplet.get slot)) ∧
          next triplet.x triplet.y triplet.z = .error fault := by
  have listed : Slot.all.mapM rule =
      (rule .x >>= fun x => rule .y >>= fun y => rule .z >>= fun z => pure [x, y, z]) := by
    simp [Slot.all]
  rw [listed]
  constructor
  · intro refused
    rcases eq_error_of_bind refused with atX | ⟨x, atX, refused⟩
    · exact .inl (by rw [atX]; rfl)
    rcases eq_error_of_bind refused with atY | ⟨y, atY, refused⟩
    · exact .inl (by rw [atX, atY]; rfl)
    rcases eq_error_of_bind refused with atZ | ⟨z, atZ, refused⟩
    · exact .inl (by rw [atX, atY, atZ]; rfl)
    refine .inr ⟨⟨x, y, z⟩, fun slot => ?_, refused⟩
    cases slot <;> assumption
  · rintro (refused | ⟨triplet, passed, refused⟩)
    · rcases eq_error_of_bind refused with atX | ⟨x, atX, refused⟩
      · rw [atX]
        rfl
      rcases eq_error_of_bind refused with atY | ⟨y, atY, refused⟩
      · rw [atX, atY]
        rfl
      rcases eq_error_of_bind refused with atZ | ⟨_, -, impossible⟩
      · rw [atX, atY, atZ]
        rfl
      · cases impossible
    · rw [passed .x, passed .y, passed .z]
      exact refused

/-- Only a complete pair can be coupled, and the third rail stays as it is. -/
theorem Assembly.eq_of_couplePair {α : Type} {set : AxisSet}
    {rails coupled : Triplet (Option (Rail α))} (pair : couplePair set rails = .ok coupled) :
    ∃ first second, rails.x = some first ∧ rails.y = some second ∧
      coupled = ⟨some (first.coupledTo second), some (second.coupledTo first), rails.z⟩ := by
  unfold couplePair at pair
  cases first : rails.x with
  | none => simp [first] at pair
  | some x =>
    cases second : rails.y with
    | none => simp [first, second] at pair
    | some y =>
      simp only [first, second, Except.ok.injEq] at pair
      exact ⟨x, y, rfl, rfl, pair.symm⟩

variable {α : Type}

namespace Assembly

/-- Which steppers the endstops of a coupled assembly stop. -/
structure Coupled (rails : Triplet (Option (Rail α))) : Prop where
  pair : ∃ first second, rails.x = some first ∧ rails.y = some second ∧
    first.Stops (first.refs ++ second.refs) ∧ second.Stops (second.refs ++ first.refs)
  third : ∀ rail, rails.z = some rail → rail.Stops rail.refs

theorem Coupled.bindRails {rails : Triplet (Option (Rail α))} (coupled : Coupled rails)
    (served : MotionQueue) : Coupled (bindRails served rails) where
  pair := by
    rcases coupled.pair with ⟨first, second, atX, atY, stopsFirst, stopsSecond⟩
    let equip (slot : Slot) (rail : Rail α) := (rail.bind (Binding.ofSlot slot)).attach served
    refine ⟨equip .x first, equip .y second, ?_, ?_, ?_, ?_⟩
    · simp [Assembly.bindRails, Triplet.ofSlots, Triplet.get, atX, equip]
    · simp [Assembly.bindRails, Triplet.ofSlots, Triplet.get, atY, equip]
    · simpa [equip] using stopsFirst.equip (Binding.ofSlot .x) served
    · simpa [equip] using stopsSecond.equip (Binding.ofSlot .y) served
  third := by
    intro rail held
    rcases Option.map_eq_some_iff.mp held with ⟨before, was, rfl⟩
    simpa using (coupled.third before was).equip (Binding.ofSlot .z) served

variable [Scalar α]

/-- What a slot holds: nothing without an axis, otherwise a rail made from the
section of the axis. -/
def Holds (machine : Machine α) (set : AxisSet) (slot : Slot) (held : Option (Rail α)) : Prop :=
  match set.axisAt slot with
  | none => held = none
  | some axis => ∃ given rail,
      machine.rail? axis.letter = some given ∧ held = some rail ∧ rail.MadeFrom given

section

variable {machine : Machine α} {set : AxisSet} {slot : Slot} {held : Option (Rail α)}

theorem Holds.exists_section (holds : Holds machine set slot held) {rail : Rail α}
    (same : held = some rail) : ∃ axis given, set.axisAt slot = some axis ∧
      machine.rail? axis.letter = some given ∧ rail.MadeFrom given := by
  subst same
  unfold Holds at holds
  cases configured : set.axisAt slot with
  | none => simp [configured] at holds
  | some axis =>
    simp only [configured] at holds
    rcases holds with ⟨given, other, found, same, made⟩
    rw [← Option.some.inj same] at made
    exact ⟨axis, given, rfl, found, made⟩

/-- A slot with an axis holds a rail that comes from the section of the axis. -/
theorem Holds.exists_rail (holds : Holds machine set slot held) {axis : Axis}
    (configured : set.axisAt slot = some axis) :
    ∃ given rail, machine.rail? axis.letter = some given ∧ held = some rail ∧
      rail.MadeFrom given := by
  unfold Holds at holds
  rwa [configured] at holds

end

/-- The same in full: the rail was made from the section under the number of its slot,
and all of its steppers have the binding and the queue. -/
def Describes (machine : Machine α) (number : Nat) (set : AxisSet) (slot : Slot)
    (binding : Option Binding) (queue : Option MotionQueue) (held : Option (Rail α)) : Prop :=
  match set.axisAt slot with
  | none => held = none
  | some axis => ∃ given rail, machine.rail? axis.letter = some given ∧ held = some rail ∧
      rail.Made (tripletSize * number + slot.index) axis.letter given binding queue

section

variable {machine : Machine α} {number : Nat} {set : AxisSet} {slot : Slot}
  {binding : Option Binding} {queue : Option MotionQueue} {held : Option (Rail α)}

theorem Describes.exists_axis (describes : Describes machine number set slot binding queue held)
    {rail : Rail α} (same : held = some rail) :
    ∃ axis given, set.axisAt slot = some axis ∧ machine.rail? axis.letter = some given ∧
      rail.Made (tripletSize * number + slot.index) axis.letter given binding queue := by
  subst same
  unfold Describes at describes
  cases configured : set.axisAt slot with
  | none => simp [configured] at describes
  | some axis =>
    simp only [configured] at describes
    rcases describes with ⟨given, other, found, same, made⟩
    rw [← Option.some.inj same] at made
    exact ⟨axis, given, rfl, found, made⟩

theorem Describes.holds (describes : Describes machine number set slot binding queue held) :
    Holds machine set slot held := by
  unfold Describes at describes
  unfold Holds
  cases configured : set.axisAt slot with
  | none => simpa only [configured] using describes
  | some axis =>
    simp only [configured] at describes
    rcases describes with ⟨given, rail, found, same, made⟩
    exact ⟨given, rail, found, same, made.toMadeFrom⟩

/-- A described rail may be changed as long as it stays made from its section. -/
theorem Describes.map (describes : Describes machine number set slot binding queue held)
    (change : Rail α → Rail α) {newBinding : Option Binding} {newQueue : Option MotionQueue}
    (kept : ∀ rail letter given,
      rail.Made (tripletSize * number + slot.index) letter given binding queue →
      (change rail).Made (tripletSize * number + slot.index) letter given newBinding newQueue) :
    Describes machine number set slot newBinding newQueue (held.map change) := by
  unfold Describes at describes ⊢
  cases configured : set.axisAt slot with
  | none =>
    simp only [configured] at describes
    rw [describes]
    rfl
  | some axis =>
    simp only [configured] at describes
    rcases describes with ⟨given, rail, found, same, made⟩
    refine ⟨given, change rail, found, ?_, kept rail axis.letter given made⟩
    rw [same]
    rfl

theorem describes_of_railAt (found : railAt machine number set slot = .ok held) :
    Describes machine number set slot none none held ∧
      ∀ rail, held = some rail → rail.Stops rail.refs := by
  unfold railAt at found
  unfold Describes
  cases configured : set.axisAt slot with
  | none =>
    simp only [configured, Except.ok.injEq] at found
    subst found
    exact ⟨rfl, nofun⟩
  | some axis =>
    simp only [configured] at found
    cases section? : machine.rail? axis.letter with
    | none => simp [section?] at found
    | some given =>
      simp only [section?] at found
      cases ofSection : Rail.ofSection (tripletSize * number + slot.index) axis.letter given with
      | error cause => simp [ofSection, Except.map] at found
      | ok rail =>
        simp only [ofSection, Except.map, Except.ok.injEq] at found
        subst found
        rcases Rail.made_of_ofSection ofSection with ⟨made, stops⟩
        refine ⟨⟨given, rail, section?, rfl, made⟩, ?_⟩
        rintro other ⟨⟩
        exact stops

theorem describes_of_couplePair {rails coupled : Triplet (Option (Rail α))}
    (describes : ∀ slot, Describes machine number set slot none none (rails.get slot))
    (alone : ∀ slot rail, rails.get slot = some rail → rail.Stops rail.refs)
    (pair : couplePair set rails = .ok coupled) :
    (∀ slot, Describes machine number set slot none none (coupled.get slot)) ∧
      Coupled coupled := by
  rcases eq_of_couplePair pair with ⟨first, second, atX, atY, rfl⟩
  constructor
  · intro slot
    cases slot with
    | x =>
      have changed := (describes .x).map (·.coupledTo second)
        fun rail letter given made => made.coupledTo second
      simpa [Triplet.get, atX] using changed
    | y =>
      have changed := (describes .y).map (·.coupledTo first)
        fun rail letter given made => made.coupledTo first
      simpa [Triplet.get, atY] using changed
    | z => exact describes .z
  · rcases (describes .x).exists_axis atX with ⟨_, _, -, -, madeFirst⟩
    rcases (describes .y).exists_axis atY with ⟨_, _, -, -, madeSecond⟩
    have apart : tripletSize * number + Slot.x.index ≠ tripletSize * number + Slot.y.index := by
      simp [Slot.index]
    constructor
    · exact ⟨_, _, rfl, rfl, madeFirst.stops_coupledTo madeSecond apart (alone .x first atX),
        madeSecond.stops_coupledTo madeFirst apart.symm (alone .y second atY)⟩
    · exact alone .z

theorem describes_bindRails {rails : Triplet (Option (Rail α))} (served : MotionQueue)
    (describes : Describes machine number set slot none none (rails.get slot)) :
    Describes machine number set slot (some (Binding.ofSlot slot)) (some served)
      ((bindRails served rails).get slot) := by
  simp only [bindRails, Triplet.get_ofSlots]
  exact describes.map _ fun rail letter given made => made.equip (Binding.ofSlot slot) served

end

/-- An assembly succeeds exactly if each of its stages does. -/
theorem make_eq_ok_iff {toolhead : Toolhead α} {machine : Machine α} {number : Nat}
    {queue : Option MotionQueue} {set : AxisSet} {assembly : Assembly α} :
    make toolhead machine number queue set = .ok assembly ↔
      checkAxisCount toolhead set = .ok () ∧
      ∃ rails coupled, (∀ slot, railAt machine number set slot = .ok (rails.get slot)) ∧
        couplePair set rails = .ok coupled ∧
        let served := queue.getD (Toolhead.queueFor set.letters)
        assembly = ⟨bindRails served coupled, served⟩ := by
  unfold make
  constructor
  · intro made
    rcases exists_of_bind_eq_ok made with ⟨_, carried, made⟩
    rcases exists_of_bind_eq_ok made with ⟨x, atX, made⟩
    rcases exists_of_bind_eq_ok made with ⟨y, atY, made⟩
    rcases exists_of_bind_eq_ok made with ⟨z, atZ, made⟩
    rcases exists_of_bind_eq_ok made with ⟨coupled, pair, made⟩
    refine ⟨carried, ⟨x, y, z⟩, coupled, fun slot => ?_, pair, ?_⟩
    · cases slot with
      | x => exact atX
      | y => exact atY
      | z => exact atZ
    · exact (Except.ok.inj made).symm
  · rintro ⟨carried, ⟨x, y, z⟩, coupled, found, pair, rfl⟩
    have atX : railAt machine number set .x = .ok x := found .x
    have atY : railAt machine number set .y = .ok y := found .y
    have atZ : railAt machine number set .z = .ok z := found .z
    rw [carried, atX, atY, atZ]
    change (couplePair set ⟨x, y, z⟩ >>= _) = _
    rw [pair]
    rfl

/-- An assembly that succeeds holds in each slot what the axis set demands, bound and
attached to its queue, and the pair is coupled. -/
theorem describes_of_make {toolhead : Toolhead α} {machine : Machine α} {number : Nat}
    {queue : Option MotionQueue} {set : AxisSet} {assembly : Assembly α}
    (made : make toolhead machine number queue set = .ok assembly) :
    (∀ slot, Describes machine number set slot (some (Binding.ofSlot slot))
      (some assembly.queue) (assembly.rails.get slot)) ∧
    Coupled assembly.rails ∧ assembly.queue = queue.getD (Toolhead.queueFor set.letters) := by
  rcases make_eq_ok_iff.mp made with ⟨-, rails, coupled, found, pair, rfl⟩
  rcases describes_of_couplePair (fun slot => (describes_of_railAt (found slot)).1)
    (fun slot => (describes_of_railAt (found slot)).2) pair with ⟨describes, stops⟩
  exact ⟨fun slot => describes_bindRails _ (describes slot), stops.bindRails _, rfl⟩

theorem holds_of_make {toolhead : Toolhead α} {machine : Machine α} {number : Nat}
    {queue : Option MotionQueue} {set : AxisSet} {assembly : Assembly α}
    (made : make toolhead machine number queue set = .ok assembly) (slot : Slot) :
    Holds machine set slot (assembly.rails.get slot) :=
  ((describes_of_make made).1 slot).holds

theorem pair_of_make {toolhead : Toolhead α} {machine : Machine α} {number : Nat}
    {queue : Option MotionQueue} {set : AxisSet} {assembly : Assembly α}
    (made : make toolhead machine number queue set = .ok assembly) :
    ∃ first second, assembly.rails.x = some first ∧ assembly.rails.y = some second := by
  rcases (describes_of_make made).2.1.pair with ⟨first, second, atX, atY, -⟩
  exact ⟨first, second, atX, atY⟩

end Assembly

namespace Gantry

variable [Scalar α]

/-- The gantry of an assembly and caps, before anything was asked of it. -/
def fresh (toolhead : Toolhead α) (set : AxisSet) (assembly : Assembly α) (caps : ZCaps α) :
    Gantry α :=
  { axisSet := set
    rails := assembly.rails
    queue := assembly.queue
    caps := caps
    axisCount := toolhead.axisCount
    limits := Limits.unhomed
    position := Triplet.const 0.0 }

/-- The outcome of building, stage by stage.  The steppers are registered
between the assembly and the caps. -/
theorem value_build (toolhead : Toolhead α) (machine : Machine α) (number : Nat)
    (queue : Option MotionQueue) (letters : String) (indices : List Nat) :
    (build toolhead machine number queue letters indices).value =
      match AxisSet.arrange letters indices with
      | .error fault => (.error (.config (.invalid (.axes fault))), toolhead)
      | .ok set =>
        match Assembly.make toolhead machine number queue set with
        | .error cause => (.error (.config (.invalid cause)), toolhead)
        | .ok assembly =>
          match ZCaps.ofSection toolhead machine.kinematics with
          | .error cause => (.error (.config (.invalid cause)), toolhead.register assembly.refs)
          | .ok caps => (.ok (fresh toolhead set assembly caps),
              toolhead.register assembly.refs) := by
  unfold build arrangeAxes
  cases AxisSet.arrange letters indices with
  | error fault => rfl
  | ok set =>
    simp only [Noted.value_bind]
    cases Assembly.make toolhead machine number queue set with
    | error cause => rfl
    | ok assembly =>
      simp only [Noted.value_bind]
      cases ZCaps.ofSection toolhead machine.kinematics <;> rfl

theorem stages_of_build {toolhead : Toolhead α} {machine : Machine α} {number : Nat}
    {queue : Option MotionQueue} {letters : String} {indices : List Nat} {gantry : Gantry α}
    (built : (build toolhead machine number queue letters indices).value.1 = .ok gantry) :
    ∃ set assembly caps, AxisSet.arrange letters indices = .ok set ∧
      Assembly.make toolhead machine number queue set = .ok assembly ∧
      ZCaps.ofSection toolhead machine.kinematics = .ok caps ∧
      gantry = fresh toolhead set assembly caps := by
  rw [value_build] at built
  cases arranged : AxisSet.arrange letters indices with
  | error fault => simp [arranged] at built
  | ok set =>
    cases made : Assembly.make toolhead machine number queue set with
    | error cause => simp [arranged, made] at built
    | ok assembly =>
      cases capped : ZCaps.ofSection toolhead machine.kinematics with
      | error cause => simp [arranged, made, capped] at built
      | ok caps =>
        simp only [arranged, made, capped, Except.ok.injEq] at built
        exact ⟨set, assembly, caps, rfl, made, rfl, built.symm⟩

theorem holds_of_build {toolhead : Toolhead α} {machine : Machine α} {number : Nat}
    {queue : Option MotionQueue} {letters : String} {indices : List Nat} {gantry : Gantry α}
    (built : (build toolhead machine number queue letters indices).value.1 = .ok gantry)
    (slot : Slot) : Assembly.Holds machine gantry.axisSet slot (gantry.rails.get slot) := by
  rcases stages_of_build built with ⟨set, assembly, caps, -, made, -, same⟩
  rw [same]
  exact Assembly.holds_of_make made slot

theorem caps_of_build {toolhead : Toolhead α} {machine : Machine α} {number : Nat}
    {queue : Option MotionQueue} {letters : String} {indices : List Nat} {gantry : Gantry α}
    (built : (build toolhead machine number queue letters indices).value.1 = .ok gantry) :
    ZCaps.ofSection toolhead machine.kinematics = .ok gantry.caps := by
  rcases stages_of_build built with ⟨set, assembly, caps, -, -, capped, same⟩
  rw [same]
  exact capped

end Gantry

/-- A machine with a rail for each letter, all of the same measures.  The last
sections of the theory try their results on it. -/
def Machine.benchtop : Machine Float :=
  let rail : RailSection Float :=
    { positionMin := 0.0, positionMax := 200.0, positionEndstop := 0.0 }
  { printer := { maxVelocity := 300.0, maxAccel := 3000.0 }
    rails := [("x", rail), ("y", rail), ("z", rail)] }

def Toolhead.benchtop : Toolhead Float := .ofPrinter Machine.benchtop.printer

theorem isSome_build_benchtop :
    (Gantry.build .benchtop .benchtop 0 none "XYZ" [0, 1, 2]).value.1.toOption.isSome = true := by
  decide

def Gantry.benchtop : Gantry Float := Option.get _ isSome_build_benchtop

theorem build_benchtop :
    (Gantry.build .benchtop .benchtop 0 none "XYZ" [0, 1, 2]).value.1 = .ok Gantry.benchtop :=
  eq_ok_of_toOption (Option.some_get isSome_build_benchtop).symm

end BeltGantry

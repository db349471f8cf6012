namespace BeltGantry

/-!
# Slots and triplets

An axis triplet has three slots.  The first two are driven together by a
crossed pair of belts, the third stands alone.  A `Triplet` holds one value
for each slot; coordinates, limits and rails of one gantry are triplets.
-/

/-- A place within a triplet. -/
inductive Slot where
  | x
  | y
  | z
  deriving DecidableEq, Repr

namespace Slot

/-- The slots in their order of precedence. -/
def all : List Slot := [x, y, z]

/-- Position of the slot within its triplet. -/
def index : Slot → Nat
  | x => 0
  | y => 1
  | z => 2

/-- The slot at a position within the triplet, if there is one. -/
def ofIndex? : Nat → Option Slot
  | 0 => some x
  | 1 => some y
  | 2 => some z
  | _ => none

/-- Lower-case letter by which a status report names the slot, whatever the
letters of the configured axes. -/
def letter : Slot → Char
  | x => 'x'
  | y => 'y'
  | z => 'z'

/-- Upper-case name of the slot in messages. -/
def name : Slot → String
  | x => "X"
  | y => "Y"
  | z => "Z"

theorem mem_all (slot : Slot) : slot ∈ all := by
  cases slot <;> decide

@[simp] theorem ofIndex?_index (slot : Slot) : ofIndex? slot.index = some slot := by
  cases slot <;> rfl

theorem index_lt (slot : Slot) : slot.index < 3 := by
  cases slot <;> decide

end Slot

/-- One value for each slot. -/
structure Triplet (β : Type) where
  x : β
  y : β
  z : β
  deriving DecidableEq, Repr

namespace Triplet

variable {β γ : Type}

/-- The value of a slot. -/
def get (triplet : Triplet β) : Slot → β
  | .x => triplet.x
  | .y => triplet.y
  | .z => triplet.z

/-- The triplet with the value of one slot replaced. -/
def set (triplet : Triplet β) (slot : Slot) (value : β) : Triplet β :=
  match slot with
  | .x => { triplet with x := value }
  | .y => { triplet with y := value }
  | .z => { triplet with z := value }

/-- The triplet whose value at each slot is given by a rule. -/
def ofSlots (rule : Slot → β) : Triplet β :=
  ⟨rule .x, rule .y, rule .z⟩

/-- The same value in every slot. -/
def const (value : β) : Triplet β := ⟨value, value, value⟩

def map (rule : β → γ) (triplet : Triplet β) : Triplet γ :=
  ⟨rule triplet.x, rule triplet.y, rule triplet.z⟩

/-- The three values in slot order. -/
def toList (triplet : Triplet β) : List β := [triplet.x, triplet.y, triplet.z]

@[simp] theorem get_set_self (triplet : Triplet β) (slot : Slot) (value : β) :
    (triplet.set slot value).get slot = value := by
  cases slot <;> rfl

theorem get_set_of_ne (triplet : Triplet β) {slot other : Slot} (value : β)
    (different : other ≠ slot) : (triplet.set slot value).get other = triplet.get other := by
  cases slot <;> cases other <;> simp_all [get, set]

@[simp] theorem get_ofSlots (rule : Slot → β) (slot : Slot) :
    (ofSlots rule).get slot = rule slot := by
  cases slot <;> rfl

@[simp] theorem get_map (rule : β → γ) (triplet : Triplet β) (slot : Slot) :
    (triplet.map rule).get slot = rule (triplet.get slot) := by
  cases slot <;> rfl

@[simp] theorem get_const (value : β) (slot : Slot) : (const value).get slot = value := by
  cases slot <;> rfl

@[ext] theorem ext_get {first second : Triplet β}
    (agree : ∀ slot, first.get slot = second.get slot) : first = second := by
  have atX := agree .x
  have atY := agree .y
  have atZ := agree .z
  cases first
  cases second
  simp only [get] at atX atY atZ
  rw [atX, atY, atZ]

end Triplet

/-- A coordinate with one component for each slot. -/
abbrev Point (α : Type) := Triplet α

end BeltGantry

import BeltGantry.Fault
import BeltGantry.Scalar
import BeltGantry.Severity
namespace BeltGantry

/-!
# The machine file

What a machine file says about logging, the toolhead, the axes of a gantry and
its rails, and the checks that its values have to pass.  A section that is left
out has the default values given here.  The checks compare binary64 values as
they come: each of them rejects a comparison that holds, so a value that
compares with nothing passes.
-/

/-- Logging, and the name under which the program reports. -/
structure SharedSection where
  logLevel : Severity := .info
  serviceName : String := "corexy"
  deriving DecidableEq, Repr

/-- Limits of the toolhead as a whole, and the number of axes it carries. -/
structure PrinterSection (α : Type) where
  maxVelocity : α
  maxAccel : α
  axisCount : Nat := tripletSize

/-- The axes of one gantry, and the caps on its third slot. -/
structure KinematicsSection (α : Type) where
  axes : String := "XYZ"
  axisIndices : List Nat := [0, 1, 2]
  maxZVelocity : Option α := none
  maxZAccel : Option α := none

/-- Travel range, endstop and steppers of a rail. -/
structure RailSection (α : Type) where
  steppers : List String := []
  positionMin : α
  positionMax : α
  positionEndstop : α
  homingPositiveDir : Option Bool := none

/-- A machine file.  The sections of the rails are kept in the order of their
keys, one for each key. -/
structure Machine (α : Type) where
  shared : SharedSection := {}
  printer : PrinterSection α
  kinematics : KinematicsSection α := {}
  rails : List (String × RailSection α) := []

/-- The sections with one more, at its place in the order of the keys.  A key
that is present takes the new section. -/
def insertSection {β : Type} (key : String) (content : β) :
    List (String × β) → List (String × β)
  | [] => [(key, content)]
  | (other, held) :: rest =>
    if key < other then (key, content) :: (other, held) :: rest
    else if key = other then (key, content) :: rest
    else (other, held) :: insertSection key content rest

/-- Sections in the order of their keys. -/
def orderedSections {β : Type} (entries : List (String × β)) : List (String × β) :=
  entries.foldl (fun sections entry => insertSection entry.1 entry.2 sections) []

theorem lookup_insertSection {β : Type} (key wanted : String) (content : β)
    (sections : List (String × β)) :
    (insertSection key content sections).lookup wanted =
      if wanted = key then some content else sections.lookup wanted := by
  induction sections with
  | nil => grind [insertSection]
  | cons entry rest inductionHypothesis =>
    obtain ⟨other, held⟩ := entry
    unfold insertSection
    grind

theorem mem_insertSection {β : Type} {key : String} {content : β} {sections : List (String × β)}
    {entry : String × β} (listed : entry ∈ insertSection key content sections) :
    entry.1 = key ∨ entry ∈ sections := by
  induction sections with
  | nil =>
    simp only [insertSection, List.mem_singleton] at listed
    exact Or.inl (congrArg Prod.fst listed)
  | cons first rest inductionHypothesis =>
    obtain ⟨other, held⟩ := first
    unfold insertSection at listed
    grind

/-- Sections stay in the order of their keys, none of which comes twice. -/
theorem pairwise_insertSection {β : Type} (key : String) (content : β)
    {sections : List (String × β)}
    (ordered : sections.Pairwise fun first second => first.1 < second.1) :
    (insertSection key content sections).Pairwise fun first second => first.1 < second.1 := by
  induction sections with
  | nil => exact List.pairwise_singleton _ _
  | cons first rest inductionHypothesis =>
    obtain ⟨other, held⟩ := first
    obtain ⟨below, restOrdered⟩ := List.pairwise_cons.mp ordered
    unfold insertSection
    split
    · rename_i less
      refine List.pairwise_cons.mpr ⟨?_, ordered⟩
      intro entry listed
      rcases List.mem_cons.mp listed with rfl | later
      · exact less
      · exact String.lt_trans less (below entry later)
    · split
      · rename_i same
        exact List.pairwise_cons.mpr ⟨fun entry listed => same ▸ below entry listed, restOrdered⟩
      · rename_i notLess different
        refine List.pairwise_cons.mpr ⟨?_, inductionHypothesis restOrdered⟩
        intro entry listed
        rcases mem_insertSection listed with atKey | later
        · rw [atKey]
          exact Std.lt_of_le_of_ne (String.not_lt.mp notLess) (Ne.symm different)
        · exact below entry later

theorem pairwise_orderedSections {β : Type} (entries : List (String × β)) :
    (orderedSections entries).Pairwise fun first second => first.1 < second.1 := by
  unfold orderedSections
  suffices grown : ∀ sections : List (String × β),
      sections.Pairwise (fun first second => first.1 < second.1) →
        (entries.foldl (fun sections entry => insertSection entry.1 entry.2 sections)
          sections).Pairwise fun first second => first.1 < second.1 by
    exact grown [] List.Pairwise.nil
  induction entries with
  | nil => exact fun _ ordered => ordered
  | cons entry rest inductionHypothesis =>
    intro sections ordered
    exact inductionHypothesis _ (pairwise_insertSection entry.1 entry.2 ordered)

def SharedSection.validate {α : Type} (shared : SharedSection) : Except (Invalid α) Unit :=
  if shared.serviceName = "" then .error .emptyServiceName else .ok ()

section

variable {α : Type} [Scalar α]

def PrinterSection.validate (printer : PrinterSection α) : Except (Invalid α) Unit :=
  if printer.maxVelocity ≤ (0.0 : α) then .error (.notPositive "max_velocity" printer.maxVelocity)
  else if printer.maxAccel ≤ (0.0 : α) then .error (.notPositive "max_accel" printer.maxAccel)
  else if printer.axisCount < tripletSize then .error (.axisCountBelowTriplet printer.axisCount)
  else .ok ()

/-- An optional value that has to be above zero and at most `maximum`, which
also stands in for it when it is absent. -/
def cappedValue (name : String) (value : Option α) (maximum : α) : Except (Invalid α) α :=
  let given := value.getD maximum
  if given ≤ (0.0 : α) then .error (.notPositive name given)
  else if maximum < given then .error (.aboveMaximum name given maximum)
  else .ok given

namespace RailSection

/-- Whether the rail approaches its endstop upwards: as stated, or else as an
endstop at one end of the range implies. -/
def homingDirection (rail : RailSection α) : Except (Invalid α) Bool :=
  match rail.homingPositiveDir with
  | some direction => .ok direction
  | none =>
    if rail.positionMax ≤ rail.positionEndstop then .ok true
    else if rail.positionEndstop ≤ rail.positionMin then .ok false
    else .error .directionUnknown

def validate (rail : RailSection α) : Except (Invalid α) Unit :=
  if rail.positionMax ≤ rail.positionMin then
    .error (.emptyRange rail.positionMin rail.positionMax)
  else if rail.positionEndstop < rail.positionMin ∨ rail.positionMax < rail.positionEndstop then
    .error (.endstopOutside rail.positionEndstop rail.positionMin rail.positionMax)
  else rail.homingDirection.map fun _ => ()

end RailSection

namespace Machine

/-- The section of an axis letter, found under the letter in lower case. -/
def rail? (machine : Machine α) (letter : Char) : Option (RailSection α) :=
  machine.rails.lookup letter.toLower.toString

/-- Check sections in order, naming the first that is refused. -/
def validateRails : List (String × RailSection α) → Except (Invalid α) Unit
  | [] => .ok ()
  | (key, rail) :: rest =>
    match rail.validate with
    | .error cause => .error (.inSection (railName key) cause)
    | .ok () => validateRails rest

/-- Check every section of the file. -/
def validate (machine : Machine α) : Except (Invalid α) Unit :=
  match machine.shared.validate with
  | .error cause => .error cause
  | .ok () =>
    match machine.printer.validate with
    | .error cause => .error cause
    | .ok () => validateRails machine.rails

end Machine

end

end BeltGantry

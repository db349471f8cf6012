import BeltGantry.Slot
import BeltGantry.Text.Listing
namespace BeltGantry

/-!
# Axes and their layout

A machine carries up to nine axes in three triplets, numbered from zero.  A
gantry takes up to three of them, given as letters and numbers in matching
order.  `AxisSet.arrange` accepts such a list when the letters are distinct
letters of ASCII, case aside, and the numbers are distinct and belong to one
triplet; the triplet is that of the first number.  Each axis then occupies the
slot that its number has within the triplet, whatever its place in the list.
Slots left over are dummies, which answer with the letter that the machine
gives their number.
-/

/-- Letters of the nine axes in order of their numbers. -/
def axisAlphabet : List Char := ['X', 'Y', 'Z', 'A', 'B', 'C', 'U', 'V', 'W']

/-- Number of slots in a triplet. -/
def tripletSize : Nat := 3

/-- Number of axes that a machine may carry. -/
def axisLimit : Nat := 9

/-- Letter of an axis by its number, if the machine has that many axes. -/
def canonicalLetter? (number : Nat) : Option Char := axisAlphabet[number]?

/-- Name of the rail of an axis, and of the section that describes it. -/
def railName (letter : String) : String := "stepper_" ++ Text.lowered letter

/-- A configured axis: its letter in upper case and its number. -/
structure Axis where
  letter : Char
  index : Nat
  deriving DecidableEq, Repr

/-- What a list of axes satisfies that shares a triplet without conflict. -/
structure Arranged (number : Nat) (axes : List Axis) : Prop where
  known : ∀ axis ∈ axes, axis.index < axisLimit
  together : ∀ axis ∈ axes, axis.index / tripletSize = number
  upper : ∀ axis ∈ axes, axis.letter.isUpper = true
  letters : axes.Pairwise fun first second => first.letter ≠ second.letter
  indices : axes.Pairwise fun first second => first.index ≠ second.index

theorem Arranged.nil (number : Nat) : Arranged number [] := by
  constructor <;> simp

/-- The axes of one gantry in the order of their configuration. -/
structure AxisSet where
  number : Nat
  axes : List Axis
  arranged : Arranged number axes

namespace AxisSet

variable (set : AxisSet)

/-- Letters in the order of configuration. -/
def letters : String := String.ofList (set.axes.map Axis.letter)

/-- Axis numbers in the order of configuration. -/
def indices : List Nat := set.axes.map Axis.index

/-- Axis number of a slot, whether an axis is configured there or not. -/
def globalIndex (slot : Slot) : Nat := tripletSize * set.number + slot.index

/-- The three axis numbers of the triplet. -/
def triplet : Triplet Nat := Triplet.ofSlots set.globalIndex

/-- The axis configured in a slot. -/
def axisAt (slot : Slot) : Option Axis :=
  set.axes.find? fun axis => axis.index == set.globalIndex slot

/-- The slot in which an axis number is configured. -/
def slotOf (index : Nat) : Option Slot :=
  Slot.all.find? fun slot => (set.axisAt slot).any (·.index == index)

def isDummy (slot : Slot) : Bool := (set.axisAt slot).isNone

/-- Letter of a slot: the configured one, or that of the machine for a dummy. -/
def slotLetter (slot : Slot) : Char :=
  match set.axisAt slot with
  | some axis => axis.letter
  | none => (canonicalLetter? (set.globalIndex slot)).getD '?'

/-- Numbers and letters of the dummy slots. -/
def dummyAxes : List (Nat × Char) :=
  (Slot.all.filter set.isDummy).map fun slot => (set.globalIndex slot, set.slotLetter slot)

end AxisSet

/-- Why a list of letters and axis numbers is no axis set. -/
inductive AxisFault where
  | countMismatch (letters : String) (indices : List Nat)
  | noAxis
  | tooMany (letters : String)
  | notALetter (letter : Char)
  | beyondLast (index : Nat)
  | severalTriplets (indices : List Nat)
  | indexTwice (index : Nat) (indices : List Nat)
  | letterTwice (letter : Char) (letters : String)
  deriving DecidableEq, Repr

def AxisFault.message : AxisFault → String
  | countMismatch letters indices =>
    "the axis indices " ++ Text.numbers indices ++ " do not match the count of axis letters '" ++
      letters ++ "'"
  | noAxis => "at least one axis must be configured"
  | tooMany letters =>
    "axis letters '" ++ letters ++ "' exceed one triplet of " ++ toString tripletSize ++ " axes"
  | notALetter letter => "axis letter '" ++ letter.toString ++ "' is not an ASCII letter"
  | beyondLast index =>
    "axis index " ++ toString index ++ " is beyond the last supported axis " ++
      toString (axisLimit - 1)
  | severalTriplets indices =>
    "axis indices " ++ Text.numbers indices ++ " span more than one triplet"
  | indexTwice index indices =>
    "axis index " ++ toString index ++ " is configured twice in " ++ Text.numbers indices
  | letterTwice letter letters =>
    "axis letter '" ++ letter.toString ++ "' is configured twice in '" ++ letters ++ "'"

/-- What holds of the letters among the first 128 characters holds of every letter. -/
theorem letter_forall (property : Char → Prop)
    (ofCode : ∀ code < 128, (Char.ofNat code).isAlpha = true → property (Char.ofNat code))
    {letter : Char} (alpha : letter.isAlpha = true) : property letter := by
  have small : letter.toNat < 128 := by
    rcases Bool.or_eq_true_iff.mp alpha with upper | lower
    · have bounds : 'A'.val ≤ letter.val ∧ letter.val ≤ 'Z'.val := of_decide_eq_true upper
      have last : letter.toNat ≤ 90 := bounds.2
      omega
    · have last : letter.toNat ≤ 122 := of_decide_eq_true (Bool.and_eq_true_iff.mp lower).2
      omega
  have rebuilt : Char.ofNat letter.toNat = letter := Char.ofNat_toNat letter
  rw [← rebuilt] at alpha ⊢
  exact ofCode letter.toNat small alpha

theorem isUpper_toUpper {letter : Char} (alpha : letter.isAlpha = true) :
    letter.toUpper.isUpper = true := by
  have ofCode : ∀ code < 128, (Char.ofNat code).isAlpha = true →
      (Char.ofNat code).toUpper.isUpper = true := by decide
  exact letter_forall (fun letter => letter.toUpper.isUpper = true) ofCode alpha

/-- One more axis of the triplet, with a letter and a number not yet taken,
keeps the axes arranged. -/
theorem Arranged.append {number : Nat} {axes : List Axis} (arranged : Arranged number axes)
    {axis : Axis} (known : axis.index < axisLimit) (together : axis.index / tripletSize = number)
    (upper : axis.letter.isUpper = true) (newIndex : ∀ other ∈ axes, other.index ≠ axis.index)
    (newLetter : ∀ other ∈ axes, other.letter ≠ axis.letter) :
    Arranged number (axes ++ [axis]) where
  known := by
    intro other listed
    rcases List.mem_append.mp listed with placed | last
    · exact arranged.known other placed
    · rwa [List.mem_singleton.mp last]
  together := by
    intro other listed
    rcases List.mem_append.mp listed with placed | last
    · exact arranged.together other placed
    · rwa [List.mem_singleton.mp last]
  upper := by
    intro other listed
    rcases List.mem_append.mp listed with placed | last
    · exact arranged.upper other placed
    · rwa [List.mem_singleton.mp last]
  letters := List.pairwise_append.mpr
    ⟨arranged.letters, List.pairwise_singleton _ _, by simpa using newLetter⟩
  indices := List.pairwise_append.mpr
    ⟨arranged.indices, List.pairwise_singleton _ _, by simpa using newIndex⟩

namespace AxisSet

/-- Place the remaining pairs of letters and numbers behind the axes that are
arranged already, or report the first fault.  The letters and numbers of the
whole list are kept for the report. -/
def place (letters : String) (indices : List Nat) (number : Nat) :
    List (Char × Nat) → (placed : List Axis) → Arranged number placed →
      Except AxisFault AxisSet
  | [], placed, arranged => .ok ⟨number, placed, arranged⟩
  | (letter, index) :: rest, placed, arranged =>
    if foreign : letter.isAlpha = false then .error (.notALetter letter)
    else if beyond : axisLimit ≤ index then .error (.beyondLast index)
    else if apart : index / tripletSize ≠ number then .error (.severalTriplets indices)
    else if indexTaken : ∃ axis ∈ placed, axis.index = index then
      .error (.indexTwice index indices)
    else if letterTaken : ∃ axis ∈ placed, axis.letter = letter.toUpper then
      .error (.letterTwice letter letters)
    else place letters indices number rest (placed ++ [⟨letter.toUpper, index⟩])
      (arranged.append (Nat.lt_of_not_le beyond) (Decidable.of_not_not apart)
        (isUpper_toUpper (Bool.of_not_eq_false foreign))
        (fun other listed same => indexTaken ⟨other, listed, same⟩)
        (fun other listed same => letterTaken ⟨other, listed, same⟩))

/-- The axis set of matching letters and numbers. -/
def arrange (letters : String) (indices : List Nat) : Except AxisFault AxisSet :=
  if letters.toList.length ≠ indices.length then .error (.countMismatch letters indices)
  else match indices with
    | [] => .error .noAxis
    | first :: _ =>
      if tripletSize < indices.length then .error (.tooMany letters)
      else place letters indices (first / tripletSize) (letters.toList.zip indices) []
        (Arranged.nil (first / tripletSize))

end AxisSet

end BeltGantry

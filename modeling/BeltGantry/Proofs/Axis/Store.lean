import BeltGantry.Proofs.Axis.Arrangement
namespace BeltGantry

/-!
# Arranging in a store of fixed size

An axis set keeps a list of axes, and finding out whether a number or a letter is taken
goes through that list.  It can be arranged with less: a store that has one cell for each
slot of the triplet, and room for three letters and three numbers.  There a number is
taken if its cell is filled.

Such a store could fail in ways of its own.  A number may have no cell, and a letter or a
number may find no room left.  None of this ever happens: `AxisStore.arrange` answers as
`AxisSet.arrange` does, with the same axes or the same fault.  That the list is no longer
than the room in the store is checked first, and each entry takes one place.
-/

/-- Storage for the axes of one triplet. -/
structure AxisStore where
  cells : Triplet (Option Axis)
  letters : List Char
  indices : List Nat

/-- Why axes cannot be kept in a store: the list of axes is at fault, or the store is. -/
inductive StoreFault where
  | axes (fault : AxisFault)
  | noCell (index : Nat)
  | lettersFull
  | indicesFull

namespace AxisStore

def empty : AxisStore := ⟨Triplet.const none, [], []⟩

/-- One more entry in a list with room for three. -/
def push? {β : Type} (entries : List β) (entry : β) : Option (List β) :=
  if entries.length < tripletSize then some (entries ++ [entry]) else none

/-- Keep an axis in a cell and in both lists. -/
def keep (store : AxisStore) (slot : Slot) (axis : Axis) : Except StoreFault AxisStore :=
  match push? store.letters axis.letter with
  | none => .error .lettersFull
  | some letters =>
    match push? store.indices axis.index with
    | none => .error .indicesFull
    | some indices => .ok ⟨store.cells.set slot (some axis), letters, indices⟩

/-- Check a letter and a number against the store, and keep them. -/
def add (letters : String) (indices : List Nat) (number : Nat) (store : AxisStore)
    (letter : Char) (index : Nat) : Except StoreFault AxisStore :=
  if letter.isAlpha = false then .error (.axes (.notALetter letter))
  else if axisLimit ≤ index then .error (.axes (.beyondLast index))
  else if index / tripletSize ≠ number then .error (.axes (.severalTriplets indices))
  else match Slot.ofIndex? (index % tripletSize) with
    | none => .error (.noCell index)
    | some slot =>
      if (store.cells.get slot).isSome then .error (.axes (.indexTwice index indices))
      else if letter.toUpper ∈ store.letters then .error (.axes (.letterTwice letter letters))
      else store.keep slot ⟨letter.toUpper, index⟩

/-- Keep the remaining letters and numbers, up to the first fault. -/
def fill (letters : String) (indices : List Nat) (number : Nat) :
    List (Char × Nat) → AxisStore → Except StoreFault AxisStore
  | [], store => .ok store
  | (letter, index) :: rest, store =>
    match add letters indices number store letter index with
    | .error fault => .error fault
    | .ok next => fill letters indices number rest next

/-- Arrange letters and numbers in an empty store. -/
def arrange (letters : String) (indices : List Nat) : Except StoreFault AxisStore :=
  if letters.toList.length ≠ indices.length then .error (.axes (.countMismatch letters indices))
  else match indices with
    | [] => .error (.axes .noAxis)
    | first :: _ =>
      if tripletSize < indices.length then .error (.axes (.tooMany letters))
      else fill letters indices (first / tripletSize) (letters.toList.zip indices) empty

/-- The store of a list of axes of a triplet. -/
def ofAxes (number : Nat) (axes : List Axis) : AxisStore where
  cells := Triplet.ofSlots fun slot =>
    axes.find? fun axis => axis.index == tripletSize * number + slot.index
  letters := axes.map Axis.letter
  indices := axes.map Axis.index

/-- The store of an axis set. -/
def ofSet (set : AxisSet) : AxisStore := ofAxes set.number set.axes

/-- The answer of a store that keeps what an axis set is arranged from. -/
def answer : Except AxisFault AxisSet → Except StoreFault AxisStore
  | .error fault => .error (.axes fault)
  | .ok set => .ok (ofSet set)

theorem push?_of_lt {β : Type} {entries : List β} (room : entries.length < tripletSize)
    (entry : β) : push? entries entry = some (entries ++ [entry]) :=
  if_pos room

variable {number : Nat} {placed : List Axis}

/-- In a store of axes of its triplet, the cell of a number is filled if the number is
taken. -/
theorem isSome_cell_iff {slot : Slot} {index : Nat}
    (same : tripletSize * number + slot.index = index) :
    ((ofAxes number placed).cells.get slot).isSome = true ↔
      ∃ axis ∈ placed, axis.index = index := by
  unfold ofAxes
  rw [Triplet.get_ofSlots, List.find?_isSome, same]
  simp only [beq_iff_eq]

/-- An axis that is kept joins the list of axes. -/
theorem keep_ofAxes {slot : Slot} {axis : Axis} (room : placed.length < tripletSize)
    (same : tripletSize * number + slot.index = axis.index)
    (free : ∀ other ∈ placed, other.index ≠ axis.index) :
    (ofAxes number placed).keep slot axis = .ok (ofAxes number (placed ++ [axis])) := by
  have lettersRoom : (ofAxes number placed).letters.length < tripletSize := by
    rwa [ofAxes, List.length_map]
  have indicesRoom : (ofAxes number placed).indices.length < tripletSize := by
    rwa [ofAxes, List.length_map]
  have cells : (ofAxes number placed).cells.set slot (some axis) =
      (ofAxes number (placed ++ [axis])).cells := by
    ext1 other
    unfold ofAxes
    rw [Triplet.get_ofSlots, List.find?_append]
    by_cases here : other = slot
    · -- The cell was empty, so the search now ends at the new axis.
      subst here
      have absent : (placed.find? fun held => held.index ==
          tripletSize * number + other.index) = none := by
        refine List.find?_eq_none.mpr fun held listed found => ?_
        exact free held listed ((beq_iff_eq.mp found).trans same)
      rw [Triplet.get_set_self, absent, Option.none_or, List.find?_cons_of_pos]
      exact beq_iff_eq.mpr same.symm
    · have elsewhere : ¬ (axis.index == tripletSize * number + other.index) = true := by
        intro found
        have level := same.trans (beq_iff_eq.mp found)
        cases slot <;> cases other <;> simp_all [Slot.index]
      have missed : [axis].find? (fun held => held.index == tripletSize * number + other.index) =
          none := List.find?_cons_of_neg elsewhere
      rw [Triplet.get_set_of_ne _ _ here, Triplet.get_ofSlots, missed, Option.or_none]
  rw [keep, push?_of_lt lettersRoom]
  dsimp only
  rw [push?_of_lt indicesRoom]
  dsimp only
  rw [cells]
  simp only [ofAxes, List.map_append, List.map_cons, List.map_nil]

/-- Filling a store goes along with placing axes, as long as there is room for all. -/
theorem fill_ofAxes {letters : String} {indices : List Nat} {pairs : List (Char × Nat)}
    {arranged : Arranged number placed} (room : placed.length + pairs.length ≤ tripletSize) :
    fill letters indices number pairs (ofAxes number placed) =
      answer (AxisSet.place letters indices number pairs placed arranged) := by
  fun_induction AxisSet.place letters indices number pairs placed arranged with
  | case1 placed arranged => rfl
  | case2 letter index rest placed arranged foreign =>
    rw [fill, add, if_pos foreign]
    rfl
  | case3 letter index rest placed arranged native beyond =>
    rw [fill, add, if_neg native, if_pos beyond]
    rfl
  | case4 letter index rest placed arranged native known apart =>
    rw [fill, add, if_neg native, if_neg known, if_pos apart]
    rfl
  | case5 letter index rest placed arranged native known together taken =>
    rcases AxisSet.exists_slot (not_not.mp together) with ⟨slot, found, same⟩
    rw [fill, add, if_neg native, if_neg known, if_neg together, found]
    dsimp only
    rw [if_pos ((isSome_cell_iff same).mpr taken)]
    rfl
  | case6 letter index rest placed arranged native known together newIndex taken =>
    rcases AxisSet.exists_slot (not_not.mp together) with ⟨slot, found, same⟩
    have listed : letter.toUpper ∈ (ofAxes number placed).letters := List.mem_map.mpr taken
    rw [fill, add, if_neg native, if_neg known, if_neg together, found]
    dsimp only
    rw [if_neg (mt (isSome_cell_iff same).mp newIndex), if_pos listed]
    rfl
  | case7 letter index rest placed arranged native known together newIndex newLetter
      inductionHypothesis =>
    rcases AxisSet.exists_slot (not_not.mp together) with ⟨slot, found, same⟩
    have unlisted : letter.toUpper ∉ (ofAxes number placed).letters :=
      fun listed => newLetter (List.mem_map.mp listed)
    rw [List.length_cons] at room
    have kept := @keep_ofAxes number placed slot ⟨letter.toUpper, index⟩ (by omega) same
      fun other held taken => newIndex ⟨other, held, taken⟩
    rw [fill, add, if_neg native, if_neg known, if_neg together, found]
    dsimp only
    rw [if_neg (mt (isSome_cell_iff same).mp newIndex), if_neg unlisted, kept]
    apply inductionHypothesis
    rw [List.length_append, List.length_singleton]
    omega

/-- A store of fixed size is enough to arrange axes: it never runs out of cells or of
room, and refuses what is refused for the same reason. -/
theorem arrange_eq_answer (letters : String) (indices : List Nat) :
    arrange letters indices = answer (AxisSet.arrange letters indices) := by
  unfold arrange AxisSet.arrange
  by_cases matching : letters.toList.length = indices.length
  · rw [if_neg (not_not.mpr matching), if_neg (not_not.mpr matching)]
    cases indices with
    | nil => rfl
    | cons first rest =>
      dsimp only
      by_cases many : tripletSize < (first :: rest).length
      · rw [if_pos many, if_pos many]
        rfl
      · rw [if_neg many, if_neg many]
        have room : ([] : List Axis).length + (letters.toList.zip (first :: rest)).length ≤
            tripletSize := by
          rw [List.length_zip, matching, Nat.min_self, List.length_nil, Nat.zero_add]
          exact Nat.le_of_not_lt many
        exact fill_ofAxes room
  · rw [if_pos matching, if_pos matching]
    rfl

end AxisStore

end BeltGantry

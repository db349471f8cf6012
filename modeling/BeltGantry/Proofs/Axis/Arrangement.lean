import Mathlib.Data.List.Nodup
import BeltGantry.Proofs.Axis.Layout
namespace BeltGantry

/-!
# Lists of axes that can be arranged

Axes are placed one after the other, and the first of them says which triplet it has to
be.  Still, what can be arranged does not depend on the order: `arrange` succeeds exactly
if an axis set has the axes that are given, with their letters in upper case, and all
that an axis set demands of its axes can be said of them in any order.

So two inputs that pair the same letters with the same numbers are both refused, or both
arranged with the same layout.  Only the order in which the set lists its axes is that of
the input.
-/

/-- The axis of a letter and a number. -/
def Axis.ofPair (pair : Char × Nat) : Axis := ⟨pair.1.toUpper, pair.2⟩

/-- Only letters have a capital. -/
theorem isAlpha_of_isUpper_toUpper {letter : Char} (upper : letter.toUpper.isUpper = true) :
    letter.isAlpha = true := by
  by_cases lower : letter.isLower = true
  · exact Bool.or_eq_true_iff.mpr (.inr lower)
  · have kept : letter.toUpper = letter := by
      unfold Char.toUpper
      refine dif_neg fun bounds => lower ?_
      exact Bool.and_eq_true_iff.mpr ⟨decide_eq_true bounds.1, decide_eq_true bounds.2⟩
    rw [kept] at upper
    exact Bool.or_eq_true_iff.mpr (.inl upper)

namespace AxisSet

/-! ## Placing -/

theorem eq_of_axes {first second : AxisSet} (number : first.number = second.number)
    (axes : first.axes = second.axes) : first = second := by
  cases first
  cases second
  subst number axes
  rfl

/-- An axis that a set has behind others would pass every check behind them. -/
theorem checks_of_axes {set : AxisSet} {placed later : List Axis} {letter : Char} {index : Nat}
    (axes : set.axes = placed ++ Axis.ofPair (letter, index) :: later) :
    letter.isAlpha = true ∧ index < axisLimit ∧ index / tripletSize = set.number ∧
      (∀ axis ∈ placed, axis.index ≠ index) ∧
      ∀ axis ∈ placed, axis.letter ≠ letter.toUpper := by
  have listed : Axis.ofPair (letter, index) ∈ set.axes := by
    rw [axes]
    exact List.mem_append_right _ List.mem_cons_self
  have indices := set.arranged.indices
  have letters := set.arranged.letters
  rw [axes, List.pairwise_append] at indices letters
  exact ⟨isAlpha_of_isUpper_toUpper (set.arranged.upper _ listed),
    set.arranged.known _ listed, set.arranged.together _ listed,
    fun axis before => indices.2.2 axis before _ List.mem_cons_self,
    fun axis before => letters.2.2 axis before _ List.mem_cons_self⟩

/-- Axes can be placed behind others exactly if an axis set has them all in this order. -/
theorem place_eq_ok_iff {letters : String} {indices : List Nat} {number : Nat}
    {pairs : List (Char × Nat)} {placed : List Axis} {arranged : Arranged number placed}
    {set : AxisSet} :
    place letters indices number pairs placed arranged = .ok set ↔
      set.number = number ∧ set.axes = placed ++ pairs.map Axis.ofPair := by
  fun_induction place letters indices number pairs placed arranged with
  | case1 placed arranged =>
    rw [List.map_nil, List.append_nil]
    constructor
    · intro succeeded
      cases succeeded
      exact ⟨rfl, rfl⟩
    · rintro ⟨sameNumber, sameAxes⟩
      exact congrArg Except.ok (eq_of_axes sameNumber.symm sameAxes.symm)
  | case2 letter index rest placed arranged foreign =>
    refine iff_of_false nofun fun ⟨_, axes⟩ => ?_
    rcases checks_of_axes axes with ⟨alpha, -⟩
    rw [foreign] at alpha
    cases alpha
  | case3 letter index rest placed arranged native beyond =>
    refine iff_of_false nofun fun ⟨_, axes⟩ => ?_
    rcases checks_of_axes axes with ⟨-, known, -⟩
    exact Nat.not_lt_of_le beyond known
  | case4 letter index rest placed arranged native known apart =>
    refine iff_of_false nofun fun ⟨sameNumber, axes⟩ => ?_
    rcases checks_of_axes axes with ⟨-, -, together, -⟩
    exact apart (together.trans sameNumber)
  | case5 letter index rest placed arranged native known together taken =>
    refine iff_of_false nofun fun ⟨_, axes⟩ => ?_
    rcases checks_of_axes axes with ⟨-, -, -, newIndex, -⟩
    rcases taken with ⟨axis, before, same⟩
    exact newIndex axis before same
  | case6 letter index rest placed arranged native known together newIndex taken =>
    refine iff_of_false nofun fun ⟨_, axes⟩ => ?_
    rcases checks_of_axes axes with ⟨-, -, -, -, newLetter⟩
    rcases taken with ⟨axis, before, same⟩
    exact newLetter axis before same
  | case7 letter index rest placed arranged native known together newIndex newLetter
      inductionHypothesis =>
    rw [inductionHypothesis, List.append_assoc]
    rfl

/-- Letters and numbers are arranged exactly by the set of their axes, which is one of
at most three. -/
theorem arrange_eq_ok_iff {letters : String} {indices : List Nat} {set : AxisSet} :
    arrange letters indices = .ok set ↔
      letters.toList.length = indices.length ∧ indices ≠ [] ∧ indices.length ≤ tripletSize ∧
        set.axes = (letters.toList.zip indices).map Axis.ofPair := by
  unfold arrange
  by_cases matching : letters.toList.length = indices.length
  · rw [if_neg (not_not.mpr matching)]
    cases indices with
    | nil => simp
    | cons first rest =>
      dsimp only
      by_cases many : tripletSize < (first :: rest).length
      · rw [if_pos many]
        exact iff_of_false nofun fun given => Nat.not_le_of_lt many given.2.2.1
      · rw [if_neg many, place_eq_ok_iff, List.nil_append]
        refine ⟨fun placed => ⟨matching, List.cons_ne_nil _ _, Nat.le_of_not_lt many, placed.2⟩,
          fun ⟨_, _, _, axes⟩ => ⟨?_, axes⟩⟩
        -- The set has the first axis, so its triplet is that of the first number.
        rcases List.exists_cons_of_length_eq_add_one matching with ⟨letter, others, split⟩
        rw [split] at axes
        have ahead : set.axes = [] ++ Axis.ofPair (letter, first) :: _ := axes
        exact (checks_of_axes ahead).2.2.1.symm
  · rw [if_pos matching]
    exact iff_of_false nofun fun given => matching given.1

/-! ## Layout -/

variable (set : AxisSet)

theorem eq_of_index {first second : Axis} (firstListed : first ∈ set.axes)
    (secondListed : second ∈ set.axes) (same : first.index = second.index) : first = second := by
  have distinct : (set.axes.map Axis.index).Nodup := List.pairwise_map.mpr set.arranged.indices
  exact List.inj_on_of_nodup_map distinct firstListed secondListed same

/-- Numbers do not repeat, so a slot holds whichever axis has its number. -/
theorem axisAt_eq_some_iff {slot : Slot} {axis : Axis} :
    set.axisAt slot = some axis ↔ axis ∈ set.axes ∧ axis.index = set.globalIndex slot := by
  constructor
  · intro held
    exact ⟨List.mem_of_find?_eq_some held, set.index_of_axisAt held⟩
  · rintro ⟨listed, same⟩
    cases held : set.axisAt slot with
    | none =>
      have unanswered := List.find?_eq_none.mp held axis listed
      exact absurd (beq_iff_eq.mpr same) unanswered
    | some other =>
      have sameIndex := (set.index_of_axisAt held).trans same.symm
      rw [set.eq_of_index (List.mem_of_find?_eq_some held) listed sameIndex]

theorem sameLayout_of_perm {first second : AxisSet} (number : second.number = first.number)
    (reordered : second.axes.Perm first.axes) : first.SameLayout second where
  number := number
  axisAt := by
    intro slot
    have sameIndex : second.globalIndex slot = first.globalIndex slot := by
      unfold globalIndex
      rw [number]
    refine Option.ext fun axis => ?_
    rw [axisAt_eq_some_iff, axisAt_eq_some_iff, reordered.mem_iff, sameIndex]

end AxisSet

theorem Arranged.of_perm {number : Nat} {axes others : List Axis} (arranged : Arranged number axes)
    (reordered : others.Perm axes) : Arranged number others where
  known := fun axis listed => arranged.known axis (reordered.mem_iff.mp listed)
  together := fun axis listed => arranged.together axis (reordered.mem_iff.mp listed)
  upper := fun axis listed => arranged.upper axis (reordered.mem_iff.mp listed)
  letters := (reordered.pairwise_iff fun different => different.symm).mpr arranged.letters
  indices := (reordered.pairwise_iff fun different => different.symm).mpr arranged.indices

/-- Two inputs that pair the same letters with the same numbers, in whatever order and
whatever the case of the letters.  They also have as many letters as each other, and as
many numbers, so that no letter or number is left without a partner in one of them only. -/
structure SamePairs (letters : String) (indices : List Nat) (otherLetters : String)
    (otherIndices : List Nat) : Prop where
  letterCount : otherLetters.toList.length = letters.toList.length
  indexCount : otherIndices.length = indices.length
  pairs : ((otherLetters.toList.zip otherIndices).map Axis.ofPair).Perm
    ((letters.toList.zip indices).map Axis.ofPair)

/-- If every letter has its number, it is enough that the pairs are the same. -/
theorem SamePairs.of_perm {letters otherLetters : String} {indices otherIndices : List Nat}
    (matching : letters.toList.length = indices.length)
    (matchingOther : otherLetters.toList.length = otherIndices.length)
    (pairs : ((otherLetters.toList.zip otherIndices).map Axis.ofPair).Perm
      ((letters.toList.zip indices).map Axis.ofPair)) :
    SamePairs letters indices otherLetters otherIndices := by
  have lengths := pairs.length_eq
  rw [List.length_map, List.length_map, List.length_zip, List.length_zip, matching,
    matchingOther, Nat.min_self, Nat.min_self] at lengths
  exact ⟨by rw [matching, matchingOther, lengths], lengths, pairs⟩

namespace SamePairs

variable {letters otherLetters : String} {indices otherIndices : List Nat}
  (same : SamePairs letters indices otherLetters otherIndices)

include same

theorem symm : SamePairs otherLetters otherIndices letters indices where
  letterCount := same.letterCount.symm
  indexCount := same.indexCount.symm
  pairs := same.pairs.symm

/-- An input with the same pairs is arranged with the same layout. -/
theorem exists_arrange {set : AxisSet} (arranged : AxisSet.arrange letters indices = .ok set) :
    ∃ other, AxisSet.arrange otherLetters otherIndices = .ok other ∧ set.SameLayout other := by
  rcases AxisSet.arrange_eq_ok_iff.mp arranged with ⟨matching, configured, few, axes⟩
  have reordered := same.pairs
  rw [← axes] at reordered
  let other : AxisSet := ⟨set.number, _, set.arranged.of_perm reordered⟩
  refine ⟨other, AxisSet.arrange_eq_ok_iff.mpr ⟨?_, ?_, ?_, rfl⟩,
    AxisSet.sameLayout_of_perm rfl reordered⟩
  · rw [same.letterCount, same.indexCount, matching]
  · rw [← List.length_pos_iff, same.indexCount]
    exact List.length_pos_iff.mpr configured
  · rw [same.indexCount]
    exact few

/-- An input with the same pairs as one that is refused is refused as well. -/
theorem exists_fault {fault : AxisFault} (refused : AxisSet.arrange letters indices = .error fault) :
    ∃ otherFault, AxisSet.arrange otherLetters otherIndices = .error otherFault := by
  cases outcome : AxisSet.arrange otherLetters otherIndices with
  | error otherFault => exact ⟨otherFault, rfl⟩
  | ok other =>
    rcases same.symm.exists_arrange outcome with ⟨set, impossible, -⟩
    rw [refused] at impossible
    cases impossible

end SamePairs

end BeltGantry

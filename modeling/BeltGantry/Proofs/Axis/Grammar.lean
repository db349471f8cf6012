import Mathlib.Data.List.Nodup
import BeltGantry.Proofs.Axis.Store
namespace BeltGantry

/-!
# Which lists of axes can be arranged, and how they are laid out

`AxisSet.arrange` works through pairs of letters and numbers and stops at the first that
does not fit.  What it accepts can be said without an order, of letters and numbers on
their own: that is `AxisGrammar`.  What it then makes of them can be said of the slots of
the triplet: that is `LaidOut`.  Both are compared with `arrange` here.
-/

/-- A list of letters and numbers that names one to three axes of a triplet. -/
structure AxisGrammar (letters : String) (indices : List Nat) : Prop where
  matching : letters.toList.length = indices.length
  configured : 1 ≤ indices.length
  few : indices.length ≤ 3
  native : ∀ letter ∈ letters.toList,
    ('A' ≤ letter ∧ letter ≤ 'Z') ∨ ('a' ≤ letter ∧ letter ≤ 'z')
  lettersDiffer : letters.toList.Pairwise fun first second => first.toUpper ≠ second.toUpper
  indicesDiffer : indices.Nodup
  known : ∀ index ∈ indices, index < 9
  together : ∃ number, ∀ index ∈ indices, index / 3 = number

namespace AxisSet

/-- An axis set that holds the axes of these letters and numbers, each in the slot of its
number, and nothing else. -/
structure LaidOut (set : AxisSet) (letters : String) (indices : List Nat) : Prop where
  keptLetters : set.letters = letters.map Char.toUpper
  keptIndices : set.indices = indices
  number : ∀ index ∈ indices, index / 3 = set.number
  /-- A slot holds the pair with its number, and is a dummy where there is none. -/
  axisAt : ∀ slot axis, set.axisAt slot = some axis ↔
    ∃ letter, (letter, axis.index) ∈ letters.toList.zip indices ∧
      axis.letter = letter.toUpper ∧ slot.index = axis.index % 3
  slotOf : ∀ index slot, set.slotOf index = some slot ↔
    index ∈ indices ∧ slot.index = index % 3
  /-- Slots and numbers of configured axes determine each other. -/
  globalIndex_slotOf : ∀ index ∈ indices, (set.slotOf index).map set.globalIndex = some index
  slotOf_globalIndex : ∀ slot, set.isDummy slot = false →
    set.slotOf (set.globalIndex slot) = some slot
  triplet : set.triplet.toList = [3 * set.number, 3 * set.number + 1, 3 * set.number + 2]
  /-- Each number of the triplet is either configured or a dummy. -/
  parted : (indices ++ set.dummyAxes.map Prod.fst).Perm set.triplet.toList
  ascending : (set.dummyAxes.map Prod.fst).Pairwise (· < ·)
  /-- A dummy has the letter that the machine gives its number. -/
  named : ∀ dummy ∈ set.dummyAxes, axisAlphabet[dummy.1]? = some dummy.2
  lettered : ∀ slot, set.slotLetter slot ≠ '?'

end AxisSet

/-! ## The grammar -/

theorem isAlpha_iff (letter : Char) :
    letter.isAlpha = true ↔
      ('A' ≤ letter ∧ letter ≤ 'Z') ∨ ('a' ≤ letter ∧ letter ≤ 'z') := by
  unfold Char.isAlpha Char.isUpper Char.isLower
  rw [Bool.or_eq_true, decide_eq_true_iff, Bool.and_eq_true, decide_eq_true_iff,
    decide_eq_true_iff]
  rfl

section

variable {letters : String} {indices : List Nat}

/-- Letters of the axes that pairs make. -/
theorem map_letter_ofPair (matching : letters.toList.length = indices.length) :
    ((letters.toList.zip indices).map Axis.ofPair).map Axis.letter =
      letters.toList.map Char.toUpper := by
  have firsts : (letters.toList.zip indices).map Prod.fst = letters.toList :=
    List.map_fst_zip (Nat.le_of_eq matching)
  rw [List.map_map]
  calc (letters.toList.zip indices).map (Axis.letter ∘ Axis.ofPair)
      = ((letters.toList.zip indices).map Prod.fst).map Char.toUpper := by
        rw [List.map_map]
        rfl
    _ = letters.toList.map Char.toUpper := by rw [firsts]

/-- Numbers of the axes that pairs make. -/
theorem map_index_ofPair (matching : letters.toList.length = indices.length) :
    ((letters.toList.zip indices).map Axis.ofPair).map Axis.index = indices := by
  rw [List.map_map]
  exact List.map_snd_zip (Nat.le_of_eq matching.symm)

namespace AxisGrammar

/-- The axes of a list in the grammar are arranged. -/
theorem arranged (grammar : AxisGrammar letters indices) {number : Nat}
    (together : ∀ index ∈ indices, index / 3 = number) :
    Arranged number ((letters.toList.zip indices).map Axis.ofPair) := by
  have mapIndex := map_index_ofPair grammar.matching
  have mapLetter := map_letter_ofPair grammar.matching
  have indexOf : ∀ axis ∈ (letters.toList.zip indices).map Axis.ofPair,
      axis.index ∈ indices := by
    intro axis listed
    have mapped := List.mem_map_of_mem (f := Axis.index) listed
    rwa [mapIndex] at mapped
  constructor
  · exact fun axis listed => grammar.known _ (indexOf axis listed)
  · exact fun axis listed => together _ (indexOf axis listed)
  · intro axis listed
    have mapped := List.mem_map_of_mem (f := Axis.letter) listed
    rw [mapLetter] at mapped
    rcases List.mem_map.mp mapped with ⟨letter, given, same⟩
    rw [← same]
    exact isUpper_toUpper ((isAlpha_iff letter).mpr (grammar.native letter given))
  · rw [← List.pairwise_map, mapLetter, List.pairwise_map]
    exact grammar.lettersDiffer
  · rw [← List.pairwise_map, mapIndex]
    exact grammar.indicesDiffer

/-- The axes of a set come from a list in the grammar. -/
theorem of_axes {set : AxisSet} (matching : letters.toList.length = indices.length)
    (configured : indices ≠ []) (few : indices.length ≤ tripletSize)
    (axes : set.axes = (letters.toList.zip indices).map Axis.ofPair) :
    AxisGrammar letters indices := by
  have mapIndex : set.axes.map Axis.index = indices := by
    rw [axes, map_index_ofPair matching]
  have mapLetter : set.axes.map Axis.letter = letters.toList.map Char.toUpper := by
    rw [axes, map_letter_ofPair matching]
  have axisOf : ∀ index ∈ indices, ∃ axis ∈ set.axes, axis.index = index := by
    intro index listed
    rw [← mapIndex] at listed
    exact List.mem_map.mp listed
  constructor
  · exact matching
  · exact List.length_pos_iff.mpr configured
  · exact few
  · intro letter given
    have mapped := List.mem_map_of_mem (f := Char.toUpper) given
    rw [← mapLetter] at mapped
    rcases List.mem_map.mp mapped with ⟨axis, listed, same⟩
    have upper := set.arranged.upper axis listed
    rw [same] at upper
    exact (isAlpha_iff letter).mp (isAlpha_of_isUpper_toUpper upper)
  · rw [← List.pairwise_map, ← mapLetter, List.pairwise_map]
    exact set.arranged.letters
  · rw [← mapIndex]
    exact List.pairwise_map.mpr set.arranged.indices
  · intro index listed
    rcases axisOf index listed with ⟨axis, held, rfl⟩
    exact set.arranged.known axis held
  · refine ⟨set.number, fun index listed => ?_⟩
    rcases axisOf index listed with ⟨axis, held, rfl⟩
    exact set.arranged.together axis held

/-- Exactly the lists in the grammar can be arranged. -/
theorem iff_exists_arrange (letters : String) (indices : List Nat) :
    AxisGrammar letters indices ↔ ∃ set, AxisSet.arrange letters indices = .ok set := by
  constructor
  · intro grammar
    rcases grammar.together with ⟨number, together⟩
    refine ⟨⟨number, _, grammar.arranged together⟩, AxisSet.arrange_eq_ok_iff.mpr
      ⟨grammar.matching, List.length_pos_iff.mp grammar.configured, grammar.few, rfl⟩⟩
  · rintro ⟨set, succeeded⟩
    rcases AxisSet.arrange_eq_ok_iff.mp succeeded with ⟨matching, configured, few, axes⟩
    exact of_axes matching configured few axes

end AxisGrammar

end

/-! ## The layout -/

namespace AxisSet

variable (set : AxisSet)

/-- The number of a slot, taken apart into triplet and place. -/
theorem globalIndex_eq_iff {slot : Slot} {index : Nat} :
    set.globalIndex slot = index ↔ index / 3 = set.number ∧ slot.index = index % 3 := by
  have inside := slot.index_lt
  unfold globalIndex tripletSize
  omega

theorem toList_triplet : set.triplet.toList = Slot.all.map set.globalIndex := rfl

theorem map_fst_dummyAxes :
    set.dummyAxes.map Prod.fst = (Slot.all.filter set.isDummy).map set.globalIndex := by
  unfold dummyAxes
  rw [List.map_map]
  rfl

theorem pairwise_triplet : (Slot.all.map set.globalIndex).Pairwise (· < ·) := by
  unfold Slot.all globalIndex Slot.index
  simp

theorem nodup_indices : set.indices.Nodup := List.pairwise_map.mpr set.arranged.indices

/-- The configured numbers, as those of the slots that are no dummies. -/
theorem perm_indices :
    set.indices.Perm ((Slot.all.filter fun slot => !set.isDummy slot).map set.globalIndex) := by
  have distinct : (Slot.all.map set.globalIndex).Nodup :=
    set.pairwise_triplet.imp fun below => Nat.ne_of_lt below
  refine (List.perm_ext_iff_of_nodup set.nodup_indices
    (distinct.sublist (List.filter_sublist.map _))).mpr fun index => ?_
  constructor
  · intro listed
    rcases Option.ne_none_iff_exists'.mp (set.slotOf_ne_none listed) with ⟨slot, found⟩
    rcases set.answers_of_slotOf found with ⟨configured, same⟩
    exact List.mem_map.mpr ⟨slot, List.mem_filter.mpr ⟨slot.mem_all, by simp [configured]⟩, same⟩
  · intro listed
    rcases List.mem_map.mp listed with ⟨slot, kept, rfl⟩
    have configured := (List.mem_filter.mp kept).2
    exact set.globalIndex_mem_indices_iff.mpr (by simpa using configured)

/-- Configured numbers and dummies make up the triplet. -/
theorem perm_triplet :
    (set.indices ++ set.dummyAxes.map Prod.fst).Perm set.triplet.toList := by
  rw [map_fst_dummyAxes, toList_triplet]
  refine (set.perm_indices.append_right _).trans ?_
  rw [← List.map_append]
  refine (List.perm_append_comm.trans ?_).map _
  exact List.filter_append_perm set.isDummy Slot.all

variable {set}

/-- A triplet with an axis in it is one of the machine. -/
theorem globalIndex_lt (configured : set.axes ≠ []) (slot : Slot) :
    set.globalIndex slot < axisLimit := by
  rcases List.exists_mem_of_ne_nil _ configured with ⟨axis, listed⟩
  have known := set.arranged.known axis listed
  have together := set.arranged.together axis listed
  have inside := slot.index_lt
  unfold globalIndex
  unfold axisLimit tripletSize at *
  omega

theorem exists_canonicalLetter {index : Nat} (known : index < axisLimit) :
    ∃ letter ∈ axisAlphabet, canonicalLetter? index = some letter :=
  ⟨axisAlphabet[index], List.getElem_mem known, List.getElem?_eq_getElem known⟩

/-- A dummy has the letter of its number. -/
theorem canonicalLetter_of_isDummy (configured : set.axes ≠ []) {slot : Slot}
    (unused : set.isDummy slot = true) :
    canonicalLetter? (set.globalIndex slot) = some (set.slotLetter slot) := by
  rcases exists_canonicalLetter (globalIndex_lt configured slot) with ⟨letter, -, found⟩
  unfold slotLetter
  rw [Option.isNone_iff_eq_none.mp unused, found]
  rfl

theorem slotLetter_ne (configured : set.axes ≠ []) (slot : Slot) : set.slotLetter slot ≠ '?' := by
  intro unknown
  cases held : set.axisAt slot with
  | some axis =>
    have upper := set.arranged.upper axis (set.axisAt_eq_some_iff.mp held).1
    have letter : set.slotLetter slot = axis.letter := by
      unfold slotLetter
      rw [held]
    rw [← letter, unknown] at upper
    exact absurd upper (by decide)
  | none =>
    have unused : set.isDummy slot = true := Option.isNone_iff_eq_none.mpr held
    rcases exists_canonicalLetter (globalIndex_lt configured slot) with ⟨letter, listed, found⟩
    rw [canonicalLetter_of_isDummy configured unused, unknown] at found
    rw [← Option.some.inj found] at listed
    exact absurd listed (by decide)

variable {letters : String} {indices : List Nat}

theorem mem_axes_iff (axes : set.axes = (letters.toList.zip indices).map Axis.ofPair)
    {axis : Axis} : axis ∈ set.axes ↔
      ∃ letter, (letter, axis.index) ∈ letters.toList.zip indices ∧
        axis.letter = letter.toUpper := by
  rw [axes, List.mem_map]
  constructor
  · rintro ⟨⟨letter, index⟩, given, rfl⟩
    exact ⟨letter, given, rfl⟩
  · rintro ⟨letter, given, same⟩
    refine ⟨(letter, axis.index), given, ?_⟩
    unfold Axis.ofPair
    rw [← same]

/-- What is arranged is laid out by slots. -/
theorem laidOut_of_arrange (succeeded : arrange letters indices = .ok set) :
    set.LaidOut letters indices := by
  rcases arrange_eq_ok_iff.mp succeeded with ⟨matching, given, few, axes⟩
  have keptIndices : set.indices = indices := by
    rw [AxisSet.indices, axes, map_index_ofPair matching]
  have keptLetters : set.letters = letters.map Char.toUpper := by
    rw [AxisSet.letters, axes, map_letter_ofPair matching, String.map_eq_internal]
  have configured : set.axes ≠ [] := by
    intro none
    rw [AxisSet.indices, none] at keptIndices
    exact given keptIndices.symm
  have number : ∀ index ∈ indices, index / 3 = set.number := by
    intro index listed
    rw [← keptIndices] at listed
    rcases List.mem_map.mp listed with ⟨axis, held, rfl⟩
    exact set.arranged.together axis held
  have slotOf : ∀ index slot, set.slotOf index = some slot ↔
      index ∈ indices ∧ slot.index = index % 3 := by
    intro index slot
    rw [slotOf_eq_some_iff, ← globalIndex_mem_indices_iff, keptIndices]
    constructor
    · rintro ⟨listed, rfl⟩
      exact ⟨listed, (set.globalIndex_eq_iff.mp rfl).2⟩
    · rintro ⟨listed, place⟩
      have same := set.globalIndex_eq_iff.mpr ⟨number index listed, place⟩
      exact ⟨same ▸ listed, same⟩
  constructor
  · exact keptLetters
  · exact keptIndices
  · exact number
  · intro slot axis
    rw [axisAt_eq_some_iff, mem_axes_iff axes]
    constructor
    · rintro ⟨⟨letter, pair, same⟩, index⟩
      exact ⟨letter, pair, same, (set.globalIndex_eq_iff.mp index.symm).2⟩
    · rintro ⟨letter, pair, same, place⟩
      have listed : axis.index ∈ indices := (List.of_mem_zip pair).2
      exact ⟨⟨letter, pair, same⟩,
        (set.globalIndex_eq_iff.mpr ⟨number axis.index listed, place⟩).symm⟩
  · exact slotOf
  · intro index listed
    rw [← keptIndices] at listed
    rcases Option.ne_none_iff_exists'.mp (set.slotOf_ne_none listed) with ⟨slot, found⟩
    rw [found, Option.map_some, (set.answers_of_slotOf found).2]
  · intro slot used
    exact set.slotOf_eq_some_iff.mpr ⟨used, rfl⟩
  · rfl
  · rw [← keptIndices]
    exact set.perm_triplet
  · rw [map_fst_dummyAxes]
    exact set.pairwise_triplet.sublist (List.filter_sublist.map _)
  · intro dummy listed
    rcases List.mem_map.mp listed with ⟨slot, unused, rfl⟩
    exact canonicalLetter_of_isDummy configured (List.mem_filter.mp unused).2
  · exact slotLetter_ne configured

/-- Exactly the lists in the grammar can be arranged, and then they are laid out by the
slots of their numbers.  A store with room for one triplet does the same: whatever it
refuses is refused for a fault of the list, never for want of a cell or of room. -/
theorem arrange_exact (letters : String) (indices : List Nat) :
    ((∃ set, arrange letters indices = .ok set) ↔ AxisGrammar letters indices) ∧
    (∀ set, arrange letters indices = .ok set → set.LaidOut letters indices) ∧
    AxisStore.arrange letters indices = AxisStore.answer (arrange letters indices) ∧
    ∀ fault, AxisStore.arrange letters indices = .error fault →
      ∃ cause, arrange letters indices = .error cause ∧ fault = .axes cause := by
  have same := AxisStore.arrange_eq_answer letters indices
  refine ⟨(AxisGrammar.iff_exists_arrange letters indices).symm,
    fun set => laidOut_of_arrange, same, fun fault refused => ?_⟩
  rw [same] at refused
  cases outcome : arrange letters indices with
  | error cause =>
    rw [outcome] at refused
    exact ⟨cause, rfl, (Except.error.inj refused).symm⟩
  | ok set =>
    rw [outcome] at refused
    cases refused

/-- Two axes of the last triplet, the later one first and one letter in lower case. -/
theorem arrange_exact_outerPair :
    ∃ set, arrange "Wu" [8, 6] = .ok set ∧ set.letters = "WU" ∧
      set.axisAt .x = some ⟨'U', 6⟩ ∧ set.slotOf 8 = some .z ∧
      ([8, 6] ++ set.dummyAxes.map Prod.fst).Perm set.triplet.toList ∧
      ∀ other, arrange "XA" [0, 3] ≠ .ok other := by
  have native : ∀ letter ∈ ['W', 'u'],
      ('A' ≤ letter ∧ letter ≤ 'Z') ∨ ('a' ≤ letter ∧ letter ≤ 'z') :=
    List.forall_mem_cons.mpr ⟨by decide, List.forall_mem_singleton.mpr (by decide)⟩
  have grammar : AxisGrammar "Wu" [8, 6] :=
    ⟨by decide, by decide, by decide, native, by decide, by decide, by decide, 2, by decide⟩
  rcases arrange_exact "Wu" [8, 6] with ⟨accepted, laidOut, -⟩
  rcases accepted.mpr grammar with ⟨set, succeeded⟩
  have layout := laidOut set succeeded
  refine ⟨set, succeeded, ?_, ?_, ?_, layout.parted, fun other spanning => ?_⟩
  · rw [layout.keptLetters]
    apply String.toList_injective
    rw [String.toList_map]
    decide
  · exact (layout.axisAt .x ⟨'U', 6⟩).mpr ⟨'u', by decide, by decide, rfl⟩
  · exact (layout.slotOf 8 .z).mpr ⟨by decide, rfl⟩
  · rcases ((arrange_exact "XA" [0, 3]).1.mp ⟨other, spanning⟩).together with ⟨number, together⟩
    have first := together 0 (by decide)
    have second := together 3 (by decide)
    omega

end AxisSet

end BeltGantry

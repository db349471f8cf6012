import Mathlib.Data.List.Basic
import BeltGantry.Program.Target
import BeltGantry.Proofs.Failure
namespace BeltGantry

/-!
# What counts as a target

The pieces of a text are told apart from the way in which they are found: they hold no
separator, and with a separator between each two they make up the text.  This fixes them, so
a target can be described by its pieces alone: there are three, and each is a number once the
white space at its ends is gone.

A text that is no target is refused for one reason.  The leftmost piece that is no number
comes before everything else, however many pieces there are.  Their count is the reason only
where all of them are numbers.
-/

namespace Text

/-- Pieces without a separator that make up a text when a separator is put between each two. -/
structure Pieces (separator : Char) (text : List Char) (pieces : List (List Char)) : Prop where
  ne_nil : pieces ≠ []
  free : ∀ piece ∈ pieces, separator ∉ piece
  joined : [separator].intercalate pieces = text

theorem splitAt_cons_of_ne {separator character : Char} (different : character ≠ separator)
    (rest : List Char) : splitAt separator (character :: rest) =
      (splitAt separator rest).modifyHead (character :: ·) := by
  rw [splitAt, if_neg different]
  cases found : splitAt separator rest with
  | nil =>
    have pieces := length_splitAt separator rest
    rw [found] at pieces
    cases pieces
  | cons piece others => rfl

theorem splitAt_eq_splitOn (separator : Char) (text : List Char) :
    splitAt separator text = text.splitOn separator := by
  induction text with
  | nil => exact (List.splitOn_nil separator).symm
  | cons character rest inductionHypothesis =>
    rw [List.splitOn_cons_eq_if_modifyHead, ← inductionHypothesis]
    by_cases same : character = separator
    · rw [if_pos (beq_iff_eq.mpr same), splitAt, if_pos same]
    · rw [if_neg (mt beq_iff_eq.mp same), splitAt_cons_of_ne same]

theorem not_mem_of_mem_splitAt {separator : Char} {text piece : List Char}
    (listed : piece ∈ splitAt separator text) : separator ∉ piece := by
  induction text generalizing piece with
  | nil =>
    rw [List.mem_singleton.mp listed]
    exact List.not_mem_nil
  | cons character rest inductionHypothesis =>
    by_cases same : character = separator
    · rw [splitAt, if_pos same] at listed
      rcases List.mem_cons.mp listed with rfl | later
      · exact List.not_mem_nil
      · exact inductionHypothesis later
    · rw [splitAt_cons_of_ne same] at listed
      cases found : splitAt separator rest with
      | nil =>
        rw [found] at listed
        cases listed
      | cons first others =>
        rw [found] at listed inductionHypothesis
        rcases List.mem_cons.mp listed with rfl | later
        · exact List.not_mem_cons_of_ne_of_not_mem (Ne.symm same)
            (inductionHypothesis List.mem_cons_self)
        · exact inductionHypothesis (List.mem_cons_of_mem first later)

/-- Every text has its pieces, and no others. -/
theorem pieces_iff_splitAt {separator : Char} {text : List Char} {pieces : List (List Char)} :
    Pieces separator text pieces ↔ splitAt separator text = pieces := by
  rw [splitAt_eq_splitOn]
  constructor
  · rintro ⟨ne_nil, free, rfl⟩
    exact List.splitOn_intercalate separator free ne_nil
  · rintro rfl
    refine ⟨List.splitOn_ne_nil separator text, fun piece listed => ?_,
      List.intercalate_splitOn separator⟩
    rw [← splitAt_eq_splitOn] at listed
    exact not_mem_of_mem_splitAt listed

/-- A text with white space put around it. -/
def Spaced (text spaced : List Char) : Prop :=
  ∃ before after, (∀ character ∈ before, isBlank character) ∧
    (∀ character ∈ after, isBlank character) ∧ spaced = before ++ text ++ after

theorem trim_of_spaced {text spaced : List Char} (around : Spaced text spaced) :
    trim spaced = trim text := by
  rcases around with ⟨before, after, blankBefore, blankAfter, rfl⟩
  have blankReversed : ∀ character ∈ after.reverse, isBlank character :=
    fun character listed => blankAfter character (List.mem_reverse.mp listed)
  unfold trim
  rw [List.append_assoc, List.dropWhile_append_of_pos blankBefore, List.dropWhile_append]
  by_cases blank : text.dropWhile isBlank = []
  · -- Nothing but white space is left of either text.
    have gone : after.dropWhile isBlank = [] := by
      rw [← List.append_nil after, List.dropWhile_append_of_pos blankAfter]
      rfl
    simp [blank, gone]
  · have shown : ¬ (text.dropWhile isBlank).isEmpty = true := mt List.isEmpty_iff.mp blank
    rw [if_neg shown, List.reverse_append, List.dropWhile_append_of_pos blankReversed]

theorem Spaced.not_mem {text spaced : List Char} (around : Spaced text spaced)
    {separator : Char} (visible : isBlank separator = false) (free : separator ∉ text) :
    separator ∉ spaced := by
  rcases around with ⟨before, after, blankBefore, blankAfter, rfl⟩
  have apart : ∀ blanks : List Char, (∀ character ∈ blanks, isBlank character) →
      separator ∉ blanks := by
    intro blanks blank listed
    rw [blank separator listed] at visible
    cases visible
  simp [free, apart before blankBefore, apart after blankAfter]

end Text

theorem Triplet.toList_inj {β : Type} {first second : Triplet β} :
    first.toList = second.toList ↔ first = second := by
  cases first
  cases second
  simp [toList]

namespace Target

/-- A piece as a number, without the white space at its ends. -/
def readPiece (piece : List Char) : Except Decimal.NumberFault Float :=
  Decimal.number (Text.trim piece)

def IsNumber (piece : List Char) : Prop := ∃ value, readPiece piece = .ok value

/-- The leftmost piece that is no number, with the reason why it is none. -/
def FirstBad (pieces : List (List Char)) (piece : List Char) (cause : Decimal.NumberFault) :
    Prop :=
  ∃ earlier later, pieces = earlier ++ piece :: later ∧ (∀ other ∈ earlier, IsNumber other) ∧
    readPiece piece = .error cause

/-- A piece as a number, with the fault that quotes it. -/
def quotedPiece (piece : List Char) : Except TargetFault Float :=
  (readPiece piece).mapError (.piece (String.ofList piece))

theorem quotedPiece_eq_ok_iff {piece : List Char} {value : Float} :
    quotedPiece piece = .ok value ↔ readPiece piece = .ok value := by
  unfold quotedPiece
  cases readPiece piece <;> simp [Except.mapError]

theorem quotedPiece_eq_error_iff {piece : List Char} {fault : TargetFault} :
    quotedPiece piece = .error fault ↔
      ∃ cause, readPiece piece = .error cause ∧ fault = .piece (String.ofList piece) cause := by
  unfold quotedPiece
  cases readPiece piece <;> simp [Except.mapError, eq_comm]

theorem readPieces_eq_mapM (pieces : List (List Char)) :
    readPieces pieces = pieces.mapM quotedPiece := by
  induction pieces with
  | nil => rfl
  | cons piece rest inductionHypothesis =>
    cases outcome : Decimal.number (Text.trim piece) with
    | error cause =>
      have quoted : quotedPiece piece = .error (.piece (String.ofList piece) cause) :=
        quotedPiece_eq_error_iff.mpr ⟨cause, outcome, rfl⟩
      rw [readPieces, outcome, mapM_cons_of_error quoted]
    | ok value =>
      have quoted : quotedPiece piece = .ok value := quotedPiece_eq_ok_iff.mpr outcome
      rw [readPieces, outcome, mapM_cons_of_ok quoted, inductionHypothesis]
      cases rest.mapM quotedPiece <;> rfl

/-- All pieces are read where each of them is a number. -/
theorem exists_readPieces_iff {pieces : List (List Char)} :
    (∃ values, readPieces pieces = .ok values) ↔ ∀ piece ∈ pieces, IsNumber piece := by
  rw [readPieces_eq_mapM, exists_mapM_iff]
  simp only [quotedPiece_eq_ok_iff, IsNumber]

/-- Otherwise the leftmost piece that is no number is the fault. -/
theorem readPieces_eq_error_iff {pieces : List (List Char)} {fault : TargetFault} :
    readPieces pieces = .error fault ↔ ∃ piece cause, FirstBad pieces piece cause ∧
      fault = .piece (String.ofList piece) cause := by
  rw [readPieces_eq_mapM, mapM_eq_error_iff]
  simp only [firstFailing?_eq_some_iff, quotedPiece_eq_ok_iff, quotedPiece_eq_error_iff]
  constructor
  · rintro ⟨piece, ⟨-, earlier, later, split, good⟩, cause, bad, rfl⟩
    exact ⟨piece, cause, ⟨earlier, later, split, good, bad⟩, rfl⟩
  · rintro ⟨piece, cause, ⟨earlier, later, split, good, bad⟩, rfl⟩
    exact ⟨piece, ⟨⟨_, cause, bad, rfl⟩, earlier, later, split, good⟩, cause, bad, rfl⟩

/-- Three pieces are read as the three numbers of a target, in their order. -/
theorem readPieces_eq_target_iff {pieces : List (List Char)} {target : Point Float} :
    readPieces pieces = .ok target.toList ↔ ∃ x y z, pieces = [x, y, z] ∧
      readPiece x = .ok target.x ∧ readPiece y = .ok target.y ∧ readPiece z = .ok target.z := by
  rw [readPieces_eq_mapM, mapM_eq_ok_iff]
  simp only [quotedPiece_eq_ok_iff, Triplet.toList, List.forall₂_cons_right_iff,
    List.forall₂_nil_right_iff]
  constructor
  · rintro ⟨x, _, readX, ⟨y, _, readY, ⟨z, _, readZ, rfl, rfl⟩, rfl⟩, rfl⟩
    exact ⟨x, y, z, rfl, readX, readY, readZ⟩
  · rintro ⟨x, y, z, rfl, readX, readY, readZ⟩
    exact ⟨x, _, readX, ⟨y, _, readY, ⟨z, _, readZ, rfl, rfl⟩, rfl⟩, rfl⟩

/-! ## The whole text -/

section

variable {text : String}

/-- A text is read as its pieces are, unless all of them are numbers and they are not three. -/
theorem read_cases (text : String) :
    (∃ fault, readPieces (Text.splitAt ',' text.toList) = .error fault ∧
      read text = .error fault) ∨
    (∃ target : Point Float, readPieces (Text.splitAt ',' text.toList) = .ok target.toList ∧
      read text = .ok target) ∨
    (∃ values, readPieces (Text.splitAt ',' text.toList) = .ok values ∧ values.length ≠ 3 ∧
      read text = .error (.count text)) := by
  unfold read
  cases found : readPieces (Text.splitAt ',' text.toList) with
  | error fault => exact .inl ⟨fault, rfl, rfl⟩
  | ok values =>
    by_cases three : values.length = 3
    · rcases List.length_eq_three.mp three with ⟨x, y, z, rfl⟩
      exact .inr (.inl ⟨⟨x, y, z⟩, rfl, rfl⟩)
    · refine .inr (.inr ⟨values, rfl, three, ?_⟩)
      split
      · contradiction
      · rename_i same
        cases same
        exact absurd rfl three
      · rfl

theorem read_eq_ok_iff {target : Point Float} :
    read text = .ok target ↔ readPieces (Text.splitAt ',' text.toList) = .ok target.toList := by
  rcases read_cases text with
    ⟨fault, found, refused⟩ | ⟨other, found, accepted⟩ | ⟨values, found, notThree, refused⟩
  · rw [found, refused]
    simp
  · rw [found, accepted, Except.ok.injEq, Except.ok.injEq, Triplet.toList_inj]
  · rw [found, refused]
    refine iff_of_false nofun fun same => notThree ?_
    rw [Except.ok.inj same]
    rfl

theorem read_eq_error_iff {fault : TargetFault} :
    read text = .error fault ↔
      readPieces (Text.splitAt ',' text.toList) = .error fault ∨
      (∃ values, readPieces (Text.splitAt ',' text.toList) = .ok values ∧ values.length ≠ 3) ∧
        fault = .count text := by
  rcases read_cases text with
    ⟨other, found, refused⟩ | ⟨target, found, accepted⟩ | ⟨values, found, notThree, refused⟩
  · rw [found, refused]
    simp
  · rw [found, accepted]
    simp [Triplet.toList]
  · rw [found, refused]
    simp [notThree, eq_comm]

theorem length_of_readPieces {values : List Float}
    (found : readPieces (Text.splitAt ',' text.toList) = .ok values) :
    values.length = text.toList.count ',' + 1 := by
  rw [readPieces_eq_mapM, mapM_eq_ok_iff] at found
  rw [← found.length_eq, Text.length_splitAt]

theorem exists_read_iff :
    (∃ target, read text = .ok target) ↔
      text.toList.count ',' = 2 ∧ ∀ piece ∈ Text.splitAt ',' text.toList, IsNumber piece := by
  constructor
  · rintro ⟨target, accepted⟩
    have found := read_eq_ok_iff.mp accepted
    have three : 3 = text.toList.count ',' + 1 := length_of_readPieces found
    exact ⟨by omega, exists_readPieces_iff.mp ⟨_, found⟩⟩
  · rintro ⟨commas, numbers⟩
    rcases exists_readPieces_iff.mpr numbers with ⟨values, found⟩
    have three : values.length = 3 := by rw [length_of_readPieces found, commas]
    rcases List.length_eq_three.mp three with ⟨x, y, z, rfl⟩
    exact ⟨⟨x, y, z⟩, read_eq_ok_iff.mpr found⟩

/-- Numbers with commas between them are a target, and white space around a number changes
nothing. -/
theorem read_of_spaced {numbers spaced : Triplet (List Char)} {target : Point Float}
    (free : ∀ slot, ',' ∉ numbers.get slot)
    (good : ∀ slot, readPiece (numbers.get slot) = .ok (target.get slot))
    (around : ∀ slot, Text.Spaced (numbers.get slot) (spaced.get slot)) :
    read (String.ofList ([','].intercalate spaced.toList)) = .ok target := by
  have readSpaced : ∀ slot, readPiece (spaced.get slot) = .ok (target.get slot) := by
    intro slot
    rw [readPiece, Text.trim_of_spaced (around slot)]
    exact good slot
  have pieces : Text.Pieces ',' ([','].intercalate spaced.toList) spaced.toList := by
    refine ⟨List.cons_ne_nil _ _, fun piece listed => ?_, rfl⟩
    have apart := fun slot => (around slot).not_mem (by decide : Text.isBlank ',' = false)
      (free slot)
    simp only [Triplet.toList, List.mem_cons, List.not_mem_nil, or_false] at listed
    rcases listed with rfl | rfl | rfl
    · exact apart .x
    · exact apart .y
    · exact apart .z
  rw [read_eq_ok_iff, String.toList_ofList, Text.pieces_iff_splitAt.mp pieces]
  exact readPieces_eq_target_iff.mpr
    ⟨_, _, _, rfl, readSpaced .x, readSpaced .y, readSpaced .z⟩

end

/-- What is read as a target.  Every text has pieces between its commas, and no others.  It is
a target exactly if there are two commas and each piece is a number, and then consists of the
three numbers in their order.  Otherwise the fault quotes the leftmost piece that is no number,
as it stands in the text, and the whole text where there is no such piece.  So numbers with
commas between them are a target, whatever white space is around them. -/
theorem read_exact :
    (∀ text : String, ∃ pieces, Text.Pieces ',' text.toList pieces ∧
      (∀ others, Text.Pieces ',' text.toList others → others = pieces) ∧
      ((∃ target, read text = .ok target) ↔
        text.toList.count ',' = 2 ∧ ∀ piece ∈ pieces, IsNumber piece) ∧
      (∀ target, read text = .ok target ↔ ∃ x y z, pieces = [x, y, z] ∧
        readPiece x = .ok target.x ∧ readPiece y = .ok target.y ∧ readPiece z = .ok target.z) ∧
      ∀ fault, read text = .error fault ↔
        (∃ piece cause, FirstBad pieces piece cause ∧
          fault = .piece (String.ofList piece) cause ∧
          fault.message = "'" ++ String.ofList piece ++ "': " ++ cause.message) ∨
        (text.toList.count ',' ≠ 2 ∧ (∀ piece ∈ pieces, IsNumber piece) ∧
          fault = .count text ∧ fault.message = "expected X,Y,Z, got '" ++ text ++ "'")) ∧
    ∀ (numbers spaced : Triplet (List Char)) (target : Point Float),
      (∀ slot, ',' ∉ numbers.get slot) →
      (∀ slot, readPiece (numbers.get slot) = .ok (target.get slot)) →
      (∀ slot, Text.Spaced (numbers.get slot) (spaced.get slot)) →
      read (String.ofList ([','].intercalate spaced.toList)) = .ok target := by
  refine ⟨fun text => ?_, fun numbers spaced target => read_of_spaced⟩
  refine ⟨Text.splitAt ',' text.toList, Text.pieces_iff_splitAt.mpr rfl, fun others cut => ?_,
    exists_read_iff, fun target => ?_, fun fault => ?_⟩
  · exact (Text.pieces_iff_splitAt.mp cut).symm
  · rw [read_eq_ok_iff, readPieces_eq_target_iff]
  · rw [read_eq_error_iff, readPieces_eq_error_iff]
    refine or_congr ?_ ?_
    · refine exists_congr fun piece => exists_congr fun cause => and_congr_right fun _ => ?_
      exact ⟨fun same => ⟨same, congrArg TargetFault.message same⟩, And.left⟩
    · constructor
      · rintro ⟨⟨values, found, notThree⟩, rfl⟩
        have pieces := length_of_readPieces found
        exact ⟨by omega, exists_readPieces_iff.mp ⟨values, found⟩, rfl, rfl⟩
      · rintro ⟨commas, numbers, rfl, -⟩
        rcases exists_readPieces_iff.mpr numbers with ⟨values, found⟩
        have pieces := length_of_readPieces found
        exact ⟨⟨values, found, by omega⟩, rfl⟩

/-- Three numbers. -/
def tight : Triplet (List Char) := ⟨['1'], ['2', '.', '5'], ['-', '3']⟩

/-- The same numbers with white space around two of them. -/
def airy : Triplet (List Char) := ⟨['\t', '1', ' '], ['\u3000', '2', '.', '5'], ['-', '3']⟩

theorem read_exact_airy :
    (∀ slot, readPiece (tight.get slot) = .ok ((⟨1, 2.5, -3⟩ : Point Float).get slot)) ∧
      read "\t1 ,\u30002.5,-3" = .ok ⟨1, 2.5, -3⟩ := by
  have good : ∀ slot,
      readPiece (tight.get slot) = .ok ((⟨1, 2.5, -3⟩ : Point Float).get slot) := by
    intro slot
    cases slot <;> rfl
  have free : ∀ slot, ',' ∉ tight.get slot := by
    intro slot
    cases slot <;> decide
  have around : ∀ slot, Text.Spaced (tight.get slot) (airy.get slot) := by
    intro slot
    cases slot with
    | x =>
      exact ⟨['\t'], [' '], List.forall_mem_singleton.mpr rfl,
        List.forall_mem_singleton.mpr rfl, rfl⟩
    | y => exact ⟨['\u3000'], [], List.forall_mem_singleton.mpr rfl, nofun, rfl⟩
    | z => exact ⟨[], [], nofun, nofun, rfl⟩
  exact ⟨good, read_exact.2 tight airy ⟨1, 2.5, -3⟩ free good around⟩

/-- A piece that is no number is quoted with its white space, also where pieces are missing. -/
example : read "1, x" = .error (.piece " x" .malformed) := rfl

end Target

end BeltGantry

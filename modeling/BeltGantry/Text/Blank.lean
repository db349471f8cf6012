namespace BeltGantry.Text

/-!
# White space

The characters with the Unicode property `White_Space`, and the removal of
white space from both ends of a text.
-/

/-- First and last code points of the runs of white space. -/
def blankRuns : List (Nat × Nat) :=
  [(0x9, 0xD), (0x20, 0x20), (0x85, 0x85), (0xA0, 0xA0), (0x1680, 0x1680), (0x2000, 0x200A),
    (0x2028, 0x2029), (0x202F, 0x202F), (0x205F, 0x205F), (0x3000, 0x3000)]

def isBlank (character : Char) : Bool :=
  blankRuns.any fun (first, last) => first ≤ character.toNat && character.toNat ≤ last

theorem isBlank_of_isWhitespace {character : Char} (white : character.isWhitespace) :
    isBlank character := by
  simp only [Char.isWhitespace, Bool.or_eq_true, decide_eq_true_eq] at white
  rcases white with ((rfl | rfl) | rfl) | rfl <;> decide

/-- The text between the white space at its two ends. -/
def trim (text : List Char) : List Char :=
  ((text.dropWhile isBlank).reverse.dropWhile isBlank).reverse

/-- The pieces of a text between the occurrences of a separator, which keeps
one piece more than there are separators. -/
def splitAt (separator : Char) : List Char → List (List Char)
  | [] => [[]]
  | character :: rest =>
    if character = separator then [] :: splitAt separator rest
    else match splitAt separator rest with
      | [] => [[character]]
      | piece :: others => (character :: piece) :: others

theorem length_splitAt (separator : Char) (text : List Char) :
    (splitAt separator text).length = text.count separator + 1 := by
  induction text with
  | nil => rfl
  | cons character rest inductionHypothesis =>
    by_cases same : character = separator
    · simp [splitAt, same, inductionHypothesis]
    · simp only [splitAt, same, if_false]
      cases found : splitAt separator rest with
      | nil => simp [found] at inductionHypothesis
      | cons piece others =>
        simp [found] at inductionHypothesis
        simp [inductionHypothesis, same]

end BeltGantry.Text

namespace BeltGantry.Text

/-!
# Sequences for a terminal

A terminal takes some characters of a text as instructions.  An escape character
opens a sequence, and the characters behind it tell where the sequence ends.
`unstyled` keeps of a text what a terminal shows: the characters outside of
sequences, except control characters that are no white space.

White space is shown within a sequence too, where it is not part of a string, and
interrupts the sequence: the characters behind it are shown up to the next
control character, with which the sequence goes on.  A character beyond ASCII
ends an interrupted sequence.  An escape character opens the next sequence from
anywhere, and the characters that cancel a sequence do so anywhere.
-/

/-- Where a character of a text stands. -/
inductive SequencePlace where
  /-- Outside of any sequence. -/
  | outside
  /-- Directly behind an escape character. -/
  | opened
  /-- In a sequence that ends at its first digit or letter. -/
  | extended
  /-- In a sequence that ends at its first letter. -/
  | control
  /-- At the start of a sequence for a device, before the letter that starts its
  string. -/
  | device
  /-- Behind numbers of a sequence for a device. -/
  | deviceNumbers
  /-- Behind marks of a sequence for a device. -/
  | deviceMarks
  /-- In a string that only another sequence ends. -/
  | string
  /-- In a string that a bell ends. -/
  | command
  deriving DecidableEq, Repr

namespace SequencePlace

/-- Whether characters belong to a string, white space among them. -/
def holdsString (place : SequencePlace) : Bool :=
  place ∈ [device, deviceNumbers, deviceMarks, string, command]

/-- The place behind a printable character of ASCII. -/
def next (character : Char) : SequencePlace → SequencePlace
  | outside => outside
  | opened =>
    match character with
    | '[' => control
    | ']' => command
    | 'P' => device
    | 'X' => string
    | '^' => string
    | '_' => string
    | _ => if character < '0' then extended else outside
  | extended => if character < '0' then extended else outside
  | control => if character < '@' then control else outside
  | device =>
    if character < '0' then deviceMarks else if character < '@' then deviceNumbers else string
  | deviceNumbers =>
    if character < '0' then deviceMarks else if character < '<' then deviceNumbers else string
  | deviceMarks => if character < '0' then deviceMarks else string
  | string => string
  | command => command

end SequencePlace

/-- White space among the control characters of ASCII. -/
def isSpacing (character : Char) : Bool := character ∈ ['\t', '\n', '\x0c', '\r']

def isControl (character : Char) : Bool := character < ' ' || character = '\x7f'

/-- Whether the encoding of a character holds the byte that ends strings. -/
def holdsTerminator (character : Char) : Bool :=
  (String.utf8EncodeChar character).contains 0x9c

/-- The place behind a character, and whether the character is shown. -/
def SequencePlace.step (place : SequencePlace) (character : Char) : SequencePlace × Bool :=
  if character = '\x1b' then (.opened, false)
  else if character = '\x18' ∨ character = '\x1a' then (.outside, false)
  else if place.holdsString ∧ isControl character then
    (if place = .command ∧ character = '\x07' then .outside else place, false)
  else if isControl character then (place, isSpacing character)
  else if '\x7f' < character then
    (if place = .string ∧ holdsTerminator character then .outside else place,
      place = .outside)
  else (place.next character, place = .outside)

/-- The shown characters of a text that starts at a place.  `showing` tells
whether the character before it was shown. -/
def shownFrom (showing : Bool) (place : SequencePlace) : List Char → List Char
  | [] => []
  | character :: rest =>
    if showing ∧ (isSpacing character ∨ !isControl character) then
      character :: shownFrom true (if '\x7f' < character then .outside else place) rest
    else
      match place.step character with
      | (next, true) => character :: shownFrom true next rest
      | (next, false) => shownFrom false next rest

/-- A text without sequences and control characters. -/
def unstyled (text : String) : String := String.ofList (shownFrom true .outside text.toList)

/-- A text without control characters is shown as it is. -/
theorem shownFrom_outside {text : List Char}
    (plain : ∀ character ∈ text, isControl character = false) :
    shownFrom true .outside text = text := by
  induction text with
  | nil => rfl
  | cons character rest inductionHypothesis =>
    have here : isControl character = false := plain character List.mem_cons_self
    have later := inductionHypothesis fun other listed =>
      plain other (List.mem_cons_of_mem character listed)
    simp [shownFrom, here, later]

end BeltGantry.Text

import BeltGantry.Text.Blank
namespace BeltGantry.Text

/-!
# Control characters on a terminal

A text from a machine file may hold characters that steer a terminal.  When
such a text is printed, they are replaced by escapes that name their code.
Line ends, tabs and the other control characters of ASCII have no such effect
and stay as they are.
-/

/-- The code of a character in hexadecimal digits. -/
def codeDigits (character : Char) : String :=
  String.ofList (Nat.toDigits 16 character.toNat)

/-- What is printed for a character. -/
def printedCharacter (character : Char) : String :=
  match character with
  | '\x07' => "\\x07"
  | '\x08' => "\\x08"
  | '\x0c' => "\\x0c"
  | '\x1b' => "\\x1b"
  | '\x7f' => "\\x7f"
  | _ =>
    if 0x80 ≤ character.toNat ∧ character.toNat ≤ 0x9f then
      "\\u\x7b" ++ codeDigits character ++ "\x7d"
    else character.toString

/-- A text without characters that steer a terminal. -/
def printed (text : String) : String :=
  String.join (text.toList.map printedCharacter)

/-- A line without the carriage return at its end. -/
def withoutReturn (line : List Char) : List Char :=
  if line.getLast? = some '\r' then line.dropLast else line

/-- The lines that a printed text takes up, without their ends. -/
def printedLines (text : String) : List String :=
  (splitAt '\n' (printed text).toList).map fun line => String.ofList (withoutReturn line)

/-- Visible characters of ASCII are printed as they are. -/
theorem printedCharacter_of_visible {character : Char} (low : 0x20 ≤ character.toNat)
    (high : character.toNat < 0x7f) : printedCharacter character = character.toString := by
  unfold printedCharacter
  split
  case h_5 => exact absurd high (by decide)
  case h_6 => rw [if_neg (by omega)]
  all_goals exact absurd low (by decide)

end BeltGantry.Text

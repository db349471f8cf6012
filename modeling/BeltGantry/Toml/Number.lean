import BeltGantry.Decimal.Literal
import BeltGantry.Text.Blank
import BeltGantry.Toml.Quoted
import BeltGantry.Toml.Value
namespace BeltGantry.Toml

/-!
# Number literals

An integer is written in decimal with an optional sign, or without a sign in
base sixteen, eight or two behind `0x`, `0o` or `0b`.  A float has a decimal
part, an exponent or both, or is one of the words `inf` and `nan`.  Single
underscores may separate digits.  A decimal integer and the whole part of a
float do not start with a superfluous zero.

Integers are kept exactly as long as they fit into 128 bits; longer ones, and
floats that would round to infinity, are `unreadable`.  So are the marks of a
base without digits behind them, and a decimal integer that other characters
than blanks follow or interrupt behind its first underscore: only the neighbours
of underscores tell whether it has the shape of an integer.
-/

/-- Digits without the underscores between them.  An underscore at either end,
or next to another one, is refused, and so is the absence of digits. -/
def separatedDigits? (isDigit : Char → Bool) : List Char → Option (List Char)
  | [] => none
  | [digit] => if isDigit digit then some [digit] else none
  | digit :: '_' :: rest =>
    if isDigit digit then (separatedDigits? isDigit rest).map (digit :: ·) else none
  | digit :: rest =>
    if isDigit digit then (separatedDigits? isDigit rest).map (digit :: ·) else none

/-- Decimal digits of a whole number, of which only the first may be zero when
it is the only one. -/
def wholeDigits? (text : List Char) : Option (List Char) :=
  match separatedDigits? Char.isDigit text with
  | some ('0' :: _ :: _) => none
  | found => found

/-- An integer, or a literal too long for 128 bits. -/
def boundedInteger (value : Int) : Value :=
  if -Int.pow 2 127 ≤ value ∧ value < Int.pow 2 128 then .integer value else .unreadable

def signedInteger (negative : Bool) (digits : List Char) : Value :=
  let magnitude : Int := Decimal.digitsValue digits
  boundedInteger (if negative then -magnitude else magnitude)

/-- Whether groups of characters may have underscores between them: a hexadecimal
digit stands on either side of each. -/
def areJoined : List (List Char) → Bool
  | first :: second :: rest =>
    first.getLast?.any isHexDigit && second.head?.any isHexDigit && areJoined (second :: rest)
  | _ => true

/-- A decimal integer without its sign, the whole of the text.  The first group
is a number without a superfluous zero; the others are only looked at next to
the underscores, and they hold no blank. -/
def decimalInteger? (negative : Bool) (text : List Char) : Option Value :=
  let groups := Text.splitAt '_' text
  match groups.head?.bind wholeDigits? with
  | none => none
  | some first =>
    if (first = ['0'] ∧ text ≠ first) ∨ ' ' ∈ text ∨ !areJoined groups then none
    else if groups.flatten.all Char.isDigit then some (signedInteger negative groups.flatten)
    else some .unreadable

/-- An integer in base sixteen, eight or two, its mark being taken already. -/
def based? (base : Nat) (isDigit : Char → Bool) (text : List Char) : Option Value :=
  if text = [] then some .unreadable
  else (separatedDigits? isDigit text).map fun digits =>
    boundedInteger (digits.foldl (fun value digit => base * value + hexDigitValue digit) 0 : Nat)

def isOctalDigit (character : Char) : Bool := '0' ≤ character && character ≤ '7'

def isBinaryDigit (character : Char) : Bool := character = '0' || character = '1'

/-- The sign of an exponent and its digits, the whole of the text. -/
def exponentDigits? (text : List Char) : Option Int :=
  let (negative, digits) := match text with
    | '+' :: rest => (false, rest)
    | '-' :: rest => (true, rest)
    | rest => (false, rest)
  (separatedDigits? Char.isDigit digits).map fun digits =>
    let magnitude : Int := Decimal.digitsValue digits
    if negative then -magnitude else magnitude

/-- The float with a given sign, or a literal too large for binary64. -/
def boundedFloat (negative : Bool) (magnitude : Float) : Value :=
  if magnitude == Decimal.infinity then .unreadable
  else .float (if negative then -magnitude else magnitude)

def isExponentMark (character : Char) : Bool := character = 'e' || character = 'E'

/-- A float in digits without its sign, the whole of the text. -/
def decimalFloat? (negative : Bool) (text : List Char) : Option Value := do
  let mantissa := text.takeWhile (!isExponentMark ·)
  let whole ← wholeDigits? (mantissa.takeWhile (· ≠ '.'))
  let part ← match mantissa.dropWhile (· ≠ '.') with
    | [] => some []
    | _ :: part => separatedDigits? Char.isDigit part
  let exponent ← match text.dropWhile (!isExponentMark ·) with
    | [] => some 0
    | _ :: exponent => exponentDigits? exponent
  some (boundedFloat negative
    (Decimal.nearest (Decimal.digitsValue (whole ++ part)) (exponent - part.length)))

/-- A number without its sign, the whole of the text. -/
def unsignedNumber? (negative : Bool) (text : List Char) : Option Value :=
  match text with
  | ['i', 'n', 'f'] =>
    some (.float (if negative then -Decimal.infinity else Decimal.infinity))
  | ['n', 'a', 'n'] => some (.float Decimal.notANumber)
  | _ =>
    if text.any fun character => character = '.' || isExponentMark character then
      decimalFloat? negative text
    else decimalInteger? negative text

/-- A number literal, the whole of the text. -/
def number? : List Char → Option Value
  | '+' :: rest => unsignedNumber? false rest
  | '-' :: rest => unsignedNumber? true rest
  | '0' :: 'x' :: rest => based? 16 isHexDigit rest
  | '0' :: 'o' :: rest => based? 8 isOctalDigit rest
  | '0' :: 'b' :: rest => based? 2 isBinaryDigit rest
  | text => unsignedNumber? false text

end BeltGantry.Toml

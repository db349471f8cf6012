import BeltGantry.Decimal.Shortest
namespace BeltGantry.Decimal

/-!
# Reading a number

A number is an optional sign followed by a decimal or by one of the words
`inf`, `infinity` and `nan` in any case.  A decimal has digits before the
point, after it, or on both sides, and may end in an exponent.  It is read as
the nearest binary64 value, a half going to the even neighbour, so a decimal
beyond the largest finite value reads as infinity.
-/

/-- Why a text is not a number. -/
inductive NumberFault where
  | empty
  | malformed
  deriving DecidableEq, Repr

def NumberFault.message : NumberFault → String
  | empty => "cannot parse float from empty string"
  | malformed => "invalid float literal"

def infinity : Float := 1.0 / 0.0

def notANumber : Float := 0.0 / 0.0

/-- Value of a run of decimal digits. -/
def digitsValue (digits : List Char) : Nat :=
  digits.foldl (fun value digit => 10 * value + (digit.toNat - '0'.toNat)) 0

/-- The binary64 value nearest to `digits * 10 ^ exponent`.  Magnitudes that
lie far outside the range are settled by their size alone. -/
def nearest (digits : Nat) (exponent : Int) : Float :=
  let size := digitCount digits + exponent
  if digits = 0 ∨ size < -400 then 0.0
  else if 400 < size then infinity
  else Float.ofScientific digits (exponent < 0) exponent.natAbs

/-- An exponent with its optional sign, the whole of the text. -/
def exponent? : List Char → Option Int
  | '+' :: digits => unsigned? digits
  | '-' :: digits => (unsigned? digits).map (-·)
  | digits => unsigned? digits
where
  unsigned? (digits : List Char) : Option Int :=
    if digits ≠ [] ∧ digits.all Char.isDigit then some (digitsValue digits) else none

/-- A decimal without a sign, the whole of the text. -/
def decimal? (text : List Char) : Option Float :=
  let whole := text.takeWhile Char.isDigit
  let afterWhole := text.dropWhile Char.isDigit
  let (part, rest) := match afterWhole with
    | '.' :: tail => (tail.takeWhile Char.isDigit, tail.dropWhile Char.isDigit)
    | tail => ([], tail)
  if whole = [] ∧ part = [] then none
  else
    let value (power : Int) := nearest (digitsValue (whole ++ part)) (power - part.length)
    match rest with
    | [] => some (value 0)
    | mark :: tail => if mark = 'e' ∨ mark = 'E' then (exponent? tail).map value else none

/-- A number without its sign, the whole of the text. -/
def unsigned? (text : List Char) : Option Float :=
  match text.map Char.toLower with
  | ['i', 'n', 'f'] => some infinity
  | ['i', 'n', 'f', 'i', 'n', 'i', 't', 'y'] => some infinity
  | ['n', 'a', 'n'] => some notANumber
  | _ => decimal? text

/-- Read a text as a number, white space not being part of one. -/
def number (text : List Char) : Except NumberFault Float :=
  let found := match text with
    | '+' :: rest => unsigned? rest
    | '-' :: rest => (unsigned? rest).map (-·)
    | rest => unsigned? rest
  match found with
  | some value => .ok value
  | none => .error (if text = [] then .empty else .malformed)

end BeltGantry.Decimal

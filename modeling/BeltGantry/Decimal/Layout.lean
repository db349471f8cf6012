import BeltGantry.Decimal.Shortest
namespace BeltGantry.Decimal

/-!
# Written forms of a number

A number is written with the fewest digits that read back.  The forms in use
differ in which magnitudes are written out in full, in whether a whole number
keeps a point, and in the choice between two equally near decimals; a `Layout`
records the three decisions.

* `plain` writes every magnitude out in full and a whole number without a point.
* `pointed` always shows a decimal point or an exponent, the latter from
  `10 ^ 16` upwards and below `10 ^ -4`.
* `datum` is the form of a number in a JSON document; it keeps one more
  magnitude below one than `pointed`, and of two decimals takes the even one.
-/

/-- How the shortest digits of a number are laid out. -/
structure Layout where
  /-- Whether a leading digit worth `10 ^ n` is written without an exponent. -/
  inFull : Int → Bool
  /-- Text that follows the digits of a whole number. -/
  wholeEnding : String
  /-- Choice between two equally near decimals of the fewest digits. -/
  tie : Tie

namespace Layout

def plain : Layout := ⟨fun _ => true, "", .upper⟩

def pointed : Layout := ⟨fun leading => -4 ≤ leading && leading ≤ 15, ".0", .upper⟩

def datum : Layout := ⟨fun leading => -5 ≤ leading && leading ≤ 15, ".0", .even⟩

end Layout

def zeros (count : Nat) : String := String.ofList (List.replicate count '0')

/-- Digits with the point in its place and no exponent. -/
def positional (wholeEnding : String) (decimal : Digits) : String :=
  let digits := toString decimal.digits
  if 0 ≤ decimal.exponent then digits ++ zeros decimal.exponent.toNat ++ wholeEnding
  else
    let places := (-decimal.exponent).toNat
    let padded := (zeros (places + 1 - digits.length) ++ digits).toList
    String.ofList (padded.take (padded.length - places)) ++ "." ++
      String.ofList (padded.drop (padded.length - places))

/-- One digit, the others behind a point if there are any, and an exponent. -/
def withExponent (decimal : Digits) : String :=
  let digits := (toString decimal.digits).toList
  let mantissa := match digits with
    | [] => ""
    | [digit] => digit.toString
    | digit :: others => digit.toString ++ "." ++ String.ofList others
  mantissa ++ "e" ++ toString decimal.leading

/-- A sign, then the digits of the number. -/
def signed (negative : Bool) (unsigned : String) : String :=
  if negative then "-" ++ unsigned else unsigned

/-- The text of a number in a layout.  Zero keeps its sign, infinities are
spelled `inf`, and a value that is not a number has no sign. -/
def Layout.text (layout : Layout) (value : Float) : String :=
  match Binary.ofFloat value with
  | .notANumber => "NaN"
  | .infinite negative => signed negative "inf"
  | .finite negative significand exponent narrow =>
    if significand = 0 then signed negative ("0" ++ layout.wholeEnding)
    else
      let decimal := shortest layout.tie significand exponent narrow
      signed negative <|
        if layout.inFull decimal.leading then positional layout.wholeEnding decimal
        else withExponent decimal

end BeltGantry.Decimal

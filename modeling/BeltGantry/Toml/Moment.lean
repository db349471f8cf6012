import BeltGantry.Decimal.Literal
namespace BeltGantry.Toml

/-!
# Dates and times

A date, a time, or a date followed by a time, which alone may carry an offset.
Date and time are separated by the letter `T` in either case or by one blank.
Seconds may be left out, and a fraction may follow them.  The fields are
checked against the calendar; a second may be numbered sixty.
-/

/-- Value of a field of a fixed count of decimal digits, and the rest. -/
def field? (count : Nat) (text : List Char) : Option (Nat × List Char) :=
  let digits := text.take count
  if digits.length = count ∧ digits.all Char.isDigit then
    some (Decimal.digitsValue digits, text.drop count)
  else none

/-- The text after a character that has to come next. -/
def after? (character : Char) : List Char → Option (List Char)
  | first :: rest => if first = character then some rest else none
  | [] => none

def isLeapYear (year : Nat) : Bool :=
  year % 4 == 0 && (year % 100 != 0 || year % 400 == 0)

def daysInMonth (year month : Nat) : Nat :=
  if month = 2 then (if isLeapYear year then 29 else 28)
  else if month ∈ [4, 6, 9, 11] then 30
  else 31

/-- The text after a date of the calendar. -/
def date? (text : List Char) : Option (List Char) := do
  let (year, rest) ← field? 4 text
  let (month, rest) ← field? 2 (← after? '-' rest)
  let (day, rest) ← field? 2 (← after? '-' rest)
  if 1 ≤ month ∧ month ≤ 12 ∧ 1 ≤ day ∧ day ≤ daysInMonth year month then some rest else none

/-- The text after the seconds of a time and their fraction, if they are given. -/
def seconds? : List Char → Option (List Char)
  | ':' :: text => do
    let (second, rest) ← field? 2 text
    if 60 < second then none
    else match rest with
      | '.' :: fraction =>
        if (fraction.takeWhile Char.isDigit).isEmpty then none
        else some (fraction.dropWhile Char.isDigit)
      | _ => some rest
  | text => some text

/-- The text after a time of day. -/
def time? (text : List Char) : Option (List Char) := do
  let (hour, rest) ← field? 2 text
  let (minute, rest) ← field? 2 (← after? ':' rest)
  if 23 < hour ∨ 59 < minute then none else seconds? rest

/-- Whether a text is an offset from universal time, or nothing. -/
def isOffset : List Char → Bool
  | [] => true
  | ['Z'] => true
  | ['z'] => true
  | sign :: text =>
    if sign ≠ '+' ∧ sign ≠ '-' then false
    else
      let fields := do
        let (hours, rest) ← field? 2 text
        let (minutes, rest) ← field? 2 (← after? ':' rest)
        some (hours, minutes, rest)
      match fields with
      | some (hours, minutes, []) => hours ≤ 23 && minutes ≤ 59
      | _ => false

/-- Whether the whole text is a date, a time, or both. -/
def isMoment (text : List Char) : Bool :=
  match date? text with
  | some [] => true
  | some (separator :: rest) =>
    if separator ∈ ['T', 't', ' '] then (time? rest).any isOffset else false
  | none => time? text == some []

end BeltGantry.Toml

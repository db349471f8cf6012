import BeltGantry.Decimal.Layout
namespace BeltGantry.Text

/-!
# Data documents

Values of a JSON document and their text, spread over lines with two blanks for
each level or written on one line.  A number that is not finite is written as
`null`.
-/

inductive Datum where
  | null
  | flag (value : Bool)
  | number (value : Float)
  | text (content : String)
  | list (items : List Datum)
  | record (fields : List (String × Datum))

namespace Datum

def hexDigits (count number : Nat) : String :=
  let digits := Nat.toDigits 16 number
  String.ofList (List.replicate (count - digits.length) '0' ++ digits)

/-- A character of a quoted text.  Quotes, backslashes and control characters of
ASCII are escaped. -/
def escaped (character : Char) : String :=
  match character with
  | '"' => "\\\""
  | '\\' => "\\\\"
  | '\n' => "\\n"
  | '\r' => "\\r"
  | '\t' => "\\t"
  | '\x08' => "\\b"
  | '\x0c' => "\\f"
  | _ =>
    if character.toNat < 32 then "\\u" ++ hexDigits 4 character.toNat else character.toString

def quoted (text : String) : String :=
  "\"" ++ String.join (text.toList.map escaped) ++ "\""

def numberText (value : Float) : String :=
  match Decimal.Binary.ofFloat value with
  | .finite .. => Decimal.Layout.datum.text value
  | _ => "null"

/-- Brackets around items, each on a line of its own one level deeper. -/
def spread (opening closing : String) (depth : Nat) (items : List String) : String :=
  let indent (level : Nat) : String := "\n" ++ String.ofList (List.replicate (2 * level) ' ')
  if items.isEmpty then opening ++ closing
  else opening ++ String.intercalate "," (items.map (indent (depth + 1) ++ ·)) ++
    indent depth ++ closing

mutual

/-- The text of a value that stands at a depth of nesting. -/
def prettyAt (depth : Nat) : Datum → String
  | null => "null"
  | flag value => if value then "true" else "false"
  | number value => numberText value
  | text content => quoted content
  | list items => spread "[" "]" depth (itemTexts (depth + 1) items)
  | record fields => spread "\x7b" "\x7d" depth (fieldTexts (depth + 1) fields)

def itemTexts (depth : Nat) : List Datum → List String
  | [] => []
  | item :: rest => item.prettyAt depth :: itemTexts depth rest

def fieldTexts (depth : Nat) : List (String × Datum) → List String
  | [] => []
  | (name, value) :: rest =>
    (quoted name ++ ": " ++ value.prettyAt depth) :: fieldTexts depth rest

end

/-- The text of a document over several lines. -/
def pretty (document : Datum) : String := document.prettyAt 0

mutual

/-- The text of a value on one line. -/
def compact : Datum → String
  | null => "null"
  | flag value => if value then "true" else "false"
  | number value => numberText value
  | text content => quoted content
  | list items => "[" ++ String.intercalate "," (compactItems items) ++ "]"
  | record fields => "\x7b" ++ String.intercalate "," (compactFields fields) ++ "\x7d"

def compactItems : List Datum → List String
  | [] => []
  | item :: rest => item.compact :: compactItems rest

def compactFields : List (String × Datum) → List String
  | [] => []
  | (name, value) :: rest => (quoted name ++ ":" ++ value.compact) :: compactFields rest

end

end Datum

end BeltGantry.Text

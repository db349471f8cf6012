namespace BeltGantry.Text

/-!
# Values in messages

How a message shows a list, an optional value and a pair: the list in
brackets with a comma and a blank between its items, an absent value as
`None`, a present one inside `Some( )`, a pair in parentheses.
-/

def listing (items : List String) : String :=
  "[" ++ String.intercalate ", " items ++ "]"

def numbers (values : List Nat) : String := listing (values.map toString)

def optional : Option String → String
  | none => "None"
  | some text => "Some(" ++ text ++ ")"

def pair (first second : String) : String :=
  "(" ++ first ++ ", " ++ second ++ ")"

/-- A character between single quotes.  Axis letters, the only characters
shown so, need no escape. -/
def quotedLetter (letter : Char) : String :=
  "'" ++ letter.toString ++ "'"

/-- Lower-case the ASCII letters of a text and keep every other character. -/
def lowered (text : String) : String := text.map Char.toLower

end BeltGantry.Text

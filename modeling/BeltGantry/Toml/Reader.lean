namespace BeltGantry.Toml

/-!
# Reading from the front of a text

A reader takes a value from the front of a text and returns it with the rest.
A text that does not start with such a value is refused.  The blanks, comments
and line ends of a document are read here, and so are the bracketed lists
shared by arrays and inline tables.
-/

abbrev Reader (β : Type) := List Char → Option (β × List Char)

/-- Blanks within a line. -/
def isBlank (character : Char) : Bool := character = ' ' || character = '\t'

/-- Characters that may stand in a comment or in a quoted text: the tab and
every character that is not a control character of ASCII. -/
def isPlain (character : Char) : Bool :=
  character = '\t' || (' ' ≤ character && character ≠ '\x7f')

def skipBlanks (text : List Char) : List Char := text.dropWhile isBlank

/-- The text after one line end. -/
def lineEnd? : List Char → Option (List Char)
  | '\n' :: rest => some rest
  | '\r' :: '\n' :: rest => some rest
  | _ => none

/-- The text after a comment, whose mark is already taken; the line end stays.
A comment that holds a control character is refused. -/
def comment? : List Char → Option (List Char)
  | [] => some []
  | '\n' :: rest => some ('\n' :: rest)
  | '\r' :: '\n' :: rest => some ('\r' :: '\n' :: rest)
  | character :: rest => if isPlain character then comment? rest else none

/-- The text after the end of a line, which may carry blanks and a comment.
The end of the text ends its last line. -/
def restOfLine? (text : List Char) : Option (List Char) :=
  let ended := match skipBlanks text with
    | '#' :: rest => comment? rest
    | rest => some rest
  match ended with
  | some [] => some []
  | some rest => lineEnd? rest
  | none => none

/-- The text after any blanks, comments and line ends.  The first argument
says whether the text starts within a comment. -/
def skipLines? : Bool → List Char → Option (List Char)
  | _, [] => some []
  | _, '\n' :: rest => skipLines? false rest
  | _, '\r' :: '\n' :: rest => skipLines? false rest
  | true, character :: rest => if isPlain character then skipLines? true rest else none
  | false, '#' :: rest => skipLines? true rest
  | false, character :: rest =>
    if isBlank character then skipLines? false rest else some (character :: rest)

/-- Items separated by commas up to a closing character, the opening one being
taken already.  A comma may follow the last item; blanks, comments and line
ends may stand anywhere between.  Each item takes at least one character, so
the rest of the text shortens. -/
def items {β : Type} (item : Reader β) (closing : Char) (text : List Char) :
    Option (List β × List Char) :=
  match skipLines? false text with
  | none | some [] => none
  | some (first :: rest) =>
    if first = closing then some ([], rest)
    else match item (first :: rest) with
      | none => none
      | some (value, after) =>
        match skipLines? false after with
        | none | some [] => none
        | some (mark :: later) =>
          if mark = closing then some ([value], later)
          else if _ : mark = ',' ∧ later.length < text.length then
            (items item closing later).map fun (values, rest) => (value :: values, rest)
          else none
termination_by text.length
decreasing_by grind

end BeltGantry.Toml

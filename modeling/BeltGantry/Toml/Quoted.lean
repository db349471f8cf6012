import BeltGantry.Toml.Reader
namespace BeltGantry.Toml

/-!
# Quoted texts

A text stands between double quotes, where a backslash starts an escape, or
between single quotes, where nothing is special.  Tripled quotes enclose a text
of several lines; its first line end, if it comes at once, does not belong to
the text.  Up to two quotes may stand directly before the closing ones.
-/

def isHexDigit (character : Char) : Bool :=
  character.isDigit || ('a' ≤ character && character ≤ 'f') || ('A' ≤ character && character ≤ 'F')

def hexDigitValue (character : Char) : Nat :=
  if character.isDigit then character.toNat - '0'.toNat
  else character.toLower.toNat - 'a'.toNat + 10

/-- Value of hexadecimal digits. -/
def hexValue (digits : List Char) : Nat :=
  digits.foldl (fun value digit => 16 * value + hexDigitValue digit) 0

/-- A character given by a fixed count of hexadecimal digits.  Surrogates and
numbers beyond the last code point are refused. -/
def coded (count : Nat) : Reader Char := fun text =>
  let digits := text.take count
  if digits.length = count ∧ digits.all isHexDigit then
    let code := hexValue digits
    if code.isValidChar then some (Char.ofNat code, text.drop count) else none
  else none

/-- What an escape stands for, its backslash being taken already. -/
def escape : Reader Char
  | 'b' :: rest => some ('\x08', rest)
  | 't' :: rest => some ('\t', rest)
  | 'n' :: rest => some ('\n', rest)
  | 'f' :: rest => some ('\x0c', rest)
  | 'r' :: rest => some ('\r', rest)
  | 'e' :: rest => some ('\x1b', rest)
  | '"' :: rest => some ('"', rest)
  | '\\' :: rest => some ('\\', rest)
  | 'x' :: rest => coded 2 rest
  | 'u' :: rest => coded 4 rest
  | 'U' :: rest => coded 8 rest
  | _ => none

/-- A text read so far, with one more character in front. -/
def prepend (character : Char) : List Char × List Char → List Char × List Char
  | (content, rest) => (character :: content, rest)

/-- The rest of a text in double quotes. -/
def basicText (text : List Char) : Option (List Char × List Char) :=
  match text with
  | [] => none
  | '"' :: rest => some ([], rest)
  | '\\' :: rest =>
    match escape rest with
    | none => none
    | some (character, after) =>
      if _ : after.length < rest.length then (basicText after).map (prepend character)
      else none
  | character :: rest =>
    if isPlain character then (basicText rest).map (prepend character) else none
termination_by text.length
decreasing_by all_goals grind

/-- The rest of a text in single quotes. -/
def literalText : Reader (List Char)
  | [] => none
  | '\'' :: rest => some ([], rest)
  | character :: rest =>
    if isPlain character then (literalText rest).map (prepend character) else none

/-- The text after blanks and line ends of any number. -/
def skipSpace : List Char → List Char
  | ' ' :: rest => skipSpace rest
  | '\t' :: rest => skipSpace rest
  | '\n' :: rest => skipSpace rest
  | '\r' :: '\n' :: rest => skipSpace rest
  | rest => rest

/-- The text after a backslash that ends its line: all space up to the next
visible character is dropped. -/
def continuation? (text : List Char) : Option (List Char) :=
  (lineEnd? (skipBlanks text)).map skipSpace

/-- The rest of a text in tripled double quotes. -/
def basicLines (text : List Char) : Option (List Char × List Char) :=
  match text with
  | [] => none
  | '"' :: '"' :: '"' :: '"' :: '"' :: rest => some (['"', '"'], rest)
  | '"' :: '"' :: '"' :: '"' :: rest => some (['"'], rest)
  | '"' :: '"' :: '"' :: rest => some ([], rest)
  | '\\' :: rest =>
    match continuation? rest with
    | some after => if _ : after.length < rest.length then basicLines after else none
    | none =>
      match escape rest with
      | none => none
      | some (character, after) =>
        if _ : after.length < rest.length then (basicLines after).map (prepend character)
        else none
  | '\n' :: rest => (basicLines rest).map (prepend '\n')
  | '\r' :: '\n' :: rest => (basicLines rest).map (prepend '\r' ∘ prepend '\n')
  | character :: rest =>
    if isPlain character then (basicLines rest).map (prepend character) else none
termination_by text.length
decreasing_by all_goals grind

/-- The rest of a text in tripled single quotes. -/
def literalLines : Reader (List Char)
  | [] => none
  | '\'' :: '\'' :: '\'' :: '\'' :: '\'' :: rest => some (['\'', '\''], rest)
  | '\'' :: '\'' :: '\'' :: '\'' :: rest => some (['\''], rest)
  | '\'' :: '\'' :: '\'' :: rest => some ([], rest)
  | '\n' :: rest => (literalLines rest).map (prepend '\n')
  | '\r' :: '\n' :: rest => (literalLines rest).map (prepend '\r' ∘ prepend '\n')
  | character :: rest =>
    if isPlain character then (literalLines rest).map (prepend character) else none

/-- A text without the line end at its very start. -/
def dropLineEnd (text : List Char) : List Char := (lineEnd? text).getD text

/-- A quoted text on one line. -/
def quotedLine : Reader String := fun text =>
  let content := match text with
    | '"' :: rest => basicText rest
    | '\'' :: rest => literalText rest
    | _ => none
  content.map fun (content, rest) => (String.ofList content, rest)

/-- A quoted text of one line or of several. -/
def quoted : Reader String := fun text =>
  let content := match text with
    | '"' :: '"' :: '"' :: rest => basicLines (dropLineEnd rest)
    | '\'' :: '\'' :: '\'' :: rest => literalLines (dropLineEnd rest)
    | '"' :: rest => basicText rest
    | '\'' :: rest => literalText rest
    | _ => none
  content.map fun (content, rest) => (String.ofList content, rest)

end BeltGantry.Toml

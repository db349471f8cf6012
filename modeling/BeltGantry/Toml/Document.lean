import BeltGantry.Toml.Moment
import BeltGantry.Toml.Number
import BeltGantry.Toml.Table
namespace BeltGantry.Toml

/-!
# Documents

A document is a sequence of lines.  A line is blank, opens a table by a header,
or assigns a value to a dotted key of the table opened last.  Brackets nest to a
fixed depth, which also bounds the recursion of the value reader, and the same
number bounds the parts of a dotted key.
-/

/-- How deep arrays and inline tables may nest, and how many parts a dotted key
may have. -/
def nestingLimit : Nat := 80

/-- Characters of a key without quotes. -/
def isKeyCharacter (character : Char) : Bool :=
  character.isAlphanum || character = '_' || character = '-'

/-- One part of a dotted key. -/
def keyPart : Reader String := fun text =>
  match text with
  | '"' :: _ => quotedLine text
  | '\'' :: _ => quotedLine text
  | _ =>
    let letters := text.takeWhile isKeyCharacter
    if letters = [] then none else some (String.ofList letters, text.dropWhile isKeyCharacter)

/-- The parts of a dotted key, with blanks around each of them. -/
def keyParts (text : List Char) : Option (List String × List Char) :=
  match keyPart (skipBlanks text) with
  | none => none
  | some (part, after) =>
    match skipBlanks after with
    | '.' :: rest =>
      if _ : rest.length < text.length then
        (keyParts rest).map fun (parts, rest) => (part :: parts, rest)
      else none
    | rest => some ([part], rest)
termination_by text.length

/-- A dotted key as its path and its last part. -/
def dottedKey : Reader (List String × String) := fun text => do
  let (parts, rest) ← keyParts text
  let key ← parts.getLast?
  if parts.length ≤ nestingLimit then some ((parts.dropLast, key), rest) else none

/-- Characters that end a value written without quotes or brackets. -/
def endsScalar (character : Char) : Bool :=
  character ∈ [' ', '\t', '\r', '\n', '#', ',', '=', '[', ']', '\x7b', '\x7d']

/-- The value that a text without quotes and brackets stands for. -/
def literal? (text : List Char) : Option Value :=
  match text with
  | ['t', 'r', 'u', 'e'] => some (.boolean true)
  | ['f', 'a', 'l', 's', 'e'] => some (.boolean false)
  | _ => if isMoment text then some (.moment (String.ofList text)) else number? text

/-- Whether a text goes on with a character that may start a word. -/
def startsWord : List Char → Bool
  | [] => false
  | character :: _ => !endsScalar character && character ≠ '"' && character ≠ '\''

/-- The front of a text that is written without quotes and brackets, and the rest.
Blanks between words belong to it, blanks behind the last word do not. -/
def words : List Char → List Char × List Char
  | [] => ([], [])
  | character :: rest =>
    if isBlank character then
      if startsWord (skipBlanks rest) then prepend character (words rest)
      else ([], character :: rest)
    else if endsScalar character then ([], character :: rest)
    else prepend character (words rest)

/-- A value without brackets. -/
def scalar : Reader Value := fun text =>
  match text with
  | '"' :: _ => (quoted text).map fun (content, rest) => (.text content, rest)
  | '\'' :: _ => (quoted text).map fun (content, rest) => (.text content, rest)
  | _ =>
    let (written, rest) := words text
    (literal? written).map (·, rest)

/-- A dotted key, an equals sign and a value.  `gap?` takes what may stand around
the equals sign. -/
def assignment (gap? : List Char → Option (List Char)) (value : Reader Value) :
    Reader ((List String × String) × Value) := fun text => do
  let (key, rest) ← dottedKey text
  match ← gap? rest with
  | '=' :: rest =>
    let (content, rest) ← value (← gap? rest)
    some ((key, content), rest)
  | _ => none

/-- The table that assignments build from nothing. -/
def inlineTable? (assignments : List ((List String × String) × Value)) : Option Value := do
  let entries ← assignments.foldlM
    (fun (entries : Entries) ((path, key), content) => entries.assign? path key content) []
  some (.table (Node.closeEntries entries))

/-- A value whose brackets nest at most to a given depth.  Within an inline table
the lines may end around the equals signs too, but not within a key. -/
def value : Nat → Reader Value
  | 0, text => if text.head? = some '[' ∨ text.head? = some '\x7b' then none else scalar text
  | depth + 1, text =>
    match text with
    | '[' :: rest =>
      (items (value depth) ']' rest).map fun (members, rest) => (.array members, rest)
    | '\x7b' :: rest => do
      let (assignments, rest) ← items (assignment (skipLines? false) (value depth)) '\x7d' rest
      let table ← inlineTable? assignments
      some (table, rest)
    | _ => scalar text

/-- A statement of a document. -/
inductive Statement where
  | blank
  | table (path : List String) (key : String)
  | element (path : List String) (key : String)
  | assign (path : List String) (key : String) (content : Value)

/-- The statement at the front of a line. -/
def statement : Reader Statement := fun text =>
  match text with
  | [] => some (.blank, [])
  | '#' :: _ | '\n' :: _ | '\r' :: _ => some (.blank, text)
  | '[' :: '[' :: rest => do
    let ((path, key), rest) ← dottedKey rest
    match skipBlanks rest with
    | ']' :: ']' :: rest => some (.element path key, rest)
    | _ => none
  | '[' :: rest => do
    let ((path, key), rest) ← dottedKey rest
    match skipBlanks rest with
    | ']' :: rest => some (.table path key, rest)
    | _ => none
  | _ => do
    let (((path, key), content), rest) ← assignment (some ∘ skipBlanks) (value nestingLimit) text
    some (.assign path key content, rest)

/-- The statements of a text, one on each line. -/
def statements (text : List Char) : Option (List Statement) :=
  match statement (skipBlanks text) with
  | none => none
  | some (first, after) =>
    match restOfLine? after with
    | none => none
    | some [] => some [first]
    | some (next :: rest) =>
      if _ : (next :: rest).length < text.length then
        (statements (next :: rest)).map (first :: ·)
      else none
termination_by text.length

/-- A document read so far: its tree, and the path of the table opened last. -/
structure Draft where
  root : Entries := []
  current : List String := []

/-- Carry out one statement. -/
def Draft.perform? (draft : Draft) : Statement → Option Draft
  | .blank => some draft
  | .table path key =>
    (draft.root.openTable? path key).map fun root => ⟨root, path ++ [key]⟩
  | .element path key =>
    (draft.root.openElement? path key).map fun root => ⟨root, path ++ [key]⟩
  | .assign path key content =>
    (Entries.within? (fun entries => entries.assign? path key content) draft.current draft.root).map
      fun root => { draft with root := root }

/-- The text without the mark that may precede it. -/
def withoutMark (text : List Char) : List Char :=
  match text with
  | '\ufeff' :: rest => rest
  | _ => text

/-- The root table of a document, or `none` when the text is not a document. -/
def document? (text : String) : Option (List (String × Value)) := do
  let lines ← statements (withoutMark text.toList)
  let draft ← lines.foldlM Draft.perform? {}
  some (Node.closeEntries draft.root)

end BeltGantry.Toml

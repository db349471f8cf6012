namespace BeltGantry.Toml

/-!
# Values of a TOML document

Dates and times keep their written form, since nothing in a machine file reads
them.  A number literal may have the shape of a number without having a value:
it is too large for any number that a reader of the document can ask for, or
some of its characters are no digits.  Such a literal belongs to the document
and is only refused where its value is looked at, so it has a constructor of its
own.
-/

/-- A value of a TOML document.  Tables list their entries in the order in
which the document introduces the keys. -/
inductive Value where
  | text (content : String)
  | integer (value : Int)
  | float (value : Float)
  | boolean (value : Bool)
  | moment (written : String)
  | unreadable
  | array (items : List Value)
  | table (entries : List (String × Value))

namespace Value

mutual

/-- Whether every number within the value can be looked at. -/
def isReadable : Value → Bool
  | unreadable => false
  | array items => areReadable items
  | table entries => entriesReadable entries
  | _ => true

def areReadable : List Value → Bool
  | [] => true
  | item :: rest => item.isReadable && areReadable rest

def entriesReadable : List (String × Value) → Bool
  | [] => true
  | (_, value) :: rest => value.isReadable && entriesReadable rest

end

end Value

end BeltGantry.Toml

import BeltGantry.Toml.Value
namespace BeltGantry.Toml

/-!
# Tables under construction

The statements of a document extend one tree of tables.  What may be added
where depends on how a table came about: one opened by its own header takes
keys and subtables but is not opened twice and is not reached by a dotted key;
one implied by the header of a subtable may still be opened; one made by dotted
keys grows by dotted keys alone, though headers may add subtables to it.
Values, inline tables among them, are closed.
-/

/-- How a table came about. -/
inductive Origin where
  /-- The table has a header of its own, or is the root of the document. -/
  | header
  /-- The header of a subtable implies the table. -/
  | implied
  /-- A dotted key implies the table. -/
  | dotted
  deriving DecidableEq

/-- A node of the tree: a value, a table that may still grow, or the tables
that headers in double brackets have opened under one name, the last of which
may still grow. -/
inductive Node where
  | value (content : Value)
  | table (origin : Origin) (entries : List (String × Node))
  | tables (elements : List (List (String × Node)))

abbrev Entries := List (String × Node)

namespace Entries

/-- The entries with the node of a key that is present replaced. -/
def replace (entries : Entries) (key : String) (node : Node) : Entries :=
  entries.map fun entry => if entry.1 = key then (key, node) else entry

/-- The entries with a new key at their end; a key that is present is refused. -/
def add? (entries : Entries) (key : String) (node : Node) : Option Entries :=
  match entries.lookup key with
  | some _ => none
  | none => some (entries ++ [(key, node)])

/-- Change the table at the end of a path.  Tables missing on the way are
implied by it.  `viaKey` tells a dotted key from a header: a dotted key does not
pass through tables that have a header. -/
def descend? (viaKey : Bool) (change : Origin → Entries → Option Entries) :
    List String → Origin → Entries → Option Entries
  | [], origin, entries => change origin entries
  | key :: path, _, entries =>
    match entries.lookup key with
    | none => do
      let origin := if viaKey then Origin.dotted else Origin.implied
      let made ← descend? viaKey change path origin []
      some (entries ++ [(key, .table origin made)])
    | some (.table origin inner) =>
      if viaKey ∧ origin = .header then none
      else do
        let changed ← descend? viaKey change path origin inner
        some (replace entries key (.table origin changed))
    | some (.tables elements) => do
      let last ← elements.getLast?
      let changed ← descend? viaKey change path .header last
      some (replace entries key (.tables (elements.dropLast ++ [changed])))
    | some (.value _) => none

/-- Add a value under a dotted key.  Only tables made by dotted keys are
extended by one. -/
def assign? (entries : Entries) (path : List String) (key : String) (value : Value) :
    Option Entries :=
  descend? true (fun origin inner =>
    if path ≠ [] ∧ origin ≠ .dotted then none else inner.add? key (.value value))
    path .header entries

/-- Open the table named by a header.  A table that a subtable implied keeps
what it holds. -/
def openTable? (entries : Entries) (path : List String) (key : String) : Option Entries :=
  descend? false (fun _ inner =>
    match inner.lookup key with
    | none => some (inner ++ [(key, .table .header [])])
    | some (.table .implied held) => some (replace inner key (.table .header held))
    | some _ => none)
    path .header entries

/-- Open one more table under the name in a header in double brackets. -/
def openElement? (entries : Entries) (path : List String) (key : String) : Option Entries :=
  descend? false (fun _ inner =>
    match inner.lookup key with
    | none => some (inner ++ [(key, .tables [[]])])
    | some (.tables elements) => some (replace inner key (.tables (elements ++ [[]])))
    | some _ => none)
    path .header entries

/-- Change the open table that a header has named, wherever it lies. -/
def within? (change : Entries → Option Entries) : List String → Entries → Option Entries
  | [], entries => change entries
  | key :: path, entries =>
    match entries.lookup key with
    | some (.table origin inner) => do
      let changed ← within? change path inner
      some (replace entries key (.table origin changed))
    | some (.tables elements) => do
      let last ← elements.getLast?
      let changed ← within? change path last
      some (replace entries key (.tables (elements.dropLast ++ [changed])))
    | _ => none

end Entries

namespace Node

mutual

/-- The finished value of a node. -/
def close : Node → Value
  | value content => content
  | table _ entries => .table (closeEntries entries)
  | tables elements => .array (closeElements elements)

def closeEntries : List (String × Node) → List (String × Value)
  | [] => []
  | (key, node) :: rest => (key, node.close) :: closeEntries rest

def closeElements : List (List (String × Node)) → List Value
  | [] => []
  | entries :: rest => .table (closeEntries entries) :: closeElements rest

end

end Node

end BeltGantry.Toml

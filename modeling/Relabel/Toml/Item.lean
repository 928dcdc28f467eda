import Relabel.Number.Binary64
import Relabel.Table

/-!
# TOML items

The values of a TOML document, and the rules by which headers and dotted keys build up its tables: a
table is defined once, by a header, by dotted keys or in braces, and each of these can extend only
some of the others.
-/

namespace Relabel.Toml

/-- How a table came about. -/
inductive Making where
  /-- By a header of its own. -/
  | header
  /-- On the way of a longer header. -/
  | passing
  /-- By a dotted key. -/
  | dotted
  /-- In braces. -/
  | braces
deriving DecidableEq, Repr

inductive Item where
  | bool (value : Bool)
  | int (value : Int)
  | float (value : Binary64)
  | text (value : Text)
  /-- A date, a time or both, in the normal spelling. -/
  | moment (spelling : Text)
  /-- An array; headers can add tables to it if it `grows`. -/
  | array (grows : Bool) (items : List Item)
  | table (making : Making) (entries : List (Name × Item))
deriving Repr, Inhabited

abbrev Entries := List (Name × Item)

/-- An array with another last table. -/
def withLast (items : List Item) (making : Making) (entries : Entries) : Item :=
  .array true (items.dropLast ++ [.table making entries])

/-- Adds an item under a dotted key. The tables on the way must not have been closed by a header or
by braces, and the table that the item goes into must be one that dotted keys make. -/
def addItem (item : Item) : (key : List Name) → Entries → Option Entries
  | [], _ => none
  | [name], entries =>
      match valueAt? name entries with
      | none => some (entries ++ [(name, item)])
      | some _ => none
  | name :: next :: rest, entries =>
      match valueAt? name entries with
      | none => do
          return entries ++ [(name, .table .dotted (← addItem item (next :: rest) []))]
      | some (.table .dotted below) => do
          return putEntry name (.table .dotted (← addItem item (next :: rest) below)) entries
      | some (.table .passing below) =>
          if rest.isEmpty then none
          else do
            return putEntry name (.table .passing (← addItem item (next :: rest) below)) entries
      | some (.array true items) =>
          match items.getLast? with
          | some (.table making below) =>
              if rest.isEmpty then none
              else do
                return putEntry name (withLast items making (← addItem item (next :: rest) below))
                  entries
          | _ => none
      | some _ => none

/-- Changes the entries of the table that a header leads to. Tables that are not there are made; of
an array of tables the last one is meant. -/
def within (change : Entries → Option Entries) : (path : List Name) → Entries → Option Entries
  | [], entries => change entries
  | name :: rest, entries =>
      match valueAt? name entries with
      | none => do return entries ++ [(name, .table .passing (← within change rest []))]
      | some (.table .braces _) => none
      | some (.table making below) => do
          return putEntry name (.table making (← within change rest below)) entries
      | some (.array true items) =>
          match items.getLast? with
          | some (.table making below) => do
              return putEntry name (withLast items making (← within change rest below)) entries
          | _ => none
      | some _ => none

/-- Opens the table of a header. Only a table that other headers passed through can be there
already; it becomes the last entry. -/
def openTable (name : Name) (entries : Entries) : Option Entries :=
  match valueAt? name entries with
  | none => some (entries ++ [(name, .table .header [])])
  | some (.table .passing below) =>
      some (entries.filter (fun entry => entry.1 ≠ name) ++ [(name, .table .header below)])
  | some _ => none

/-- Opens another table of an array of tables. -/
def openElement (name : Name) (entries : Entries) : Option Entries :=
  match valueAt? name entries with
  | none => some (entries ++ [(name, .array true [.table .header []])])
  | some (.array true items) =>
      some (putEntry name (.array true (items ++ [.table .header []])) entries)
  | some _ => none

/-- The table in braces with the given keys. -/
def ofPairs (pairs : List (List Name × Item)) : Option Item := do
  return .table .braces (← pairs.foldlM (fun entries (key, item) => addItem item key entries) [])

end Relabel.Toml

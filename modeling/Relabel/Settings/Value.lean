import Relabel.Number.Binary64
import Relabel.Number.Signed64
import Relabel.Table
import Relabel.Text.Case

/-!
# Values of settings

Settings come from files and from the environment as a tree of values. A value is set at a path of
names and places in lists; what stands in the way gives way.
-/

namespace Relabel

inductive SettingValue where
  /-- A place that nothing was set at. -/
  | nothing
  | bool (value : Bool)
  | int (value : Int)
  | float (value : Binary64)
  | text (value : Text)
  | list (items : List SettingValue)
  | table (entries : List (Name × SettingValue))
deriving Repr, Inhabited

/-- A step on the way to a value. -/
inductive SettingStep where
  | name (name : Name)
  /-- A place in a list, counted from the end if it is negative. -/
  | place (index : Int)
deriving DecidableEq, Repr

namespace SettingValue

abbrev Entries := List (Name × SettingValue)

/-- The entries of a table; anything else has none. -/
def entries : SettingValue → Entries
  | table entries => entries
  | _ => []

/-- The items of a list; anything else has none. -/
def items : SettingValue → List SettingValue
  | list items => items
  | _ => []

mutual

/-- Sets a value under a name in lower case. A table is merged into the table that is there. -/
def put (name : Name) (value : SettingValue) (entries : Entries) : Entries :=
  let key := Text.lower name
  match value with
  | table incoming =>
      let old := (valueAt? key entries).getD (table [])
      putEntry key (if incoming.isEmpty then old else table (putAll incoming old.entries)) entries
  | value => putEntry key value entries

/-- Sets values under names. -/
def putAll : (incoming entries : Entries) → Entries
  | [], entries => entries
  | (name, value) :: rest, entries => putAll rest (put name value entries)

end

/-- The place in a list of some length that an index means. -/
def placeOf (index : Int) (length : Nat) : Nat :=
  if 0 ≤ index then index.toNat else length - index.natAbs

/-- Changes the item at a place; the list is filled up to it. -/
def setPlace (index : Int) (change : SettingValue → SettingValue) (items : List SettingValue) :
    List SettingValue :=
  let place := placeOf index items.length
  let filled := items ++ List.replicate (place + 1 - items.length) nothing
  filled.modify place change

/-- Sets a value at a path. -/
def set (value : SettingValue) : List SettingStep → SettingValue → SettingValue
  | [], old => old
  | [.name name], old => table (put name value old.entries)
  | [.place index], old => list (setPlace index (fun _ => value) old.items)
  | .name name :: rest, old =>
      let key := Text.lower name
      table (putEntry key (set value rest ((valueAt? key old.entries).getD nothing)) old.entries)
  | .place index :: rest, old => list (setPlace index (set value rest) old.items)

end SettingValue

namespace SettingStep

def isNameChar (c : Char) : Bool :=
  c.isAlphanum || c = '_' || c = '-' || c = ' '

/-- Reads the number of a place, with blanks around it, up to the closing bracket. -/
def place? (t : Text) : Option (Int × Text) :=
  let blank (c : Char) : Bool := c = ' ' || c = '\t'
  let t := t.dropWhile blank
  let (negative, t) := if t.head? = some '-' then (true, t.drop 1) else (false, t)
  let digits := t.takeWhile Char.isDigit
  let n := digits.foldl (fun n c => 10 * n + (c.toNat - '0'.toNat)) 0
  let value : Int := if negative then -n else n
  if digits.isEmpty ∨ !fitsSigned64 value then none
  else
    match (t.dropWhile Char.isDigit).dropWhile blank with
    | ']' :: rest => some (value, rest)
    | _ => none

/-- Reads the steps behind the first name. -/
def more? : (steps : Nat) → Text → Option (List SettingStep)
  | _, [] => some []
  | 0, _ => none
  | steps + 1, '.' :: t =>
      let found := t.takeWhile isNameChar
      if found.isEmpty then none
      else do return .name found :: (← more? steps (t.dropWhile isNameChar))
  | steps + 1, '[' :: t => do
      let (index, rest) ← place? t
      return .place index :: (← more? steps rest)
  | _, _ => none

/-- The path that a key spells: names with dots between them, and places in brackets. A key that is
none of this is one name. -/
def ofKey (key : Name) : List SettingStep :=
  let first := key.takeWhile isNameChar
  if first.isEmpty then [.name key]
  else
    match more? key.length (key.dropWhile isNameChar) with
    | some rest => .name first :: rest
    | none => [.name key]

end SettingStep

/-- Sets values at the paths that their keys spell. -/
def SettingValue.setAll (sets : SettingValue.Entries) (old : SettingValue) : SettingValue :=
  sets.foldl (fun old (key, value) => SettingValue.set value (SettingStep.ofKey key) old) old

end Relabel

import Relabel.Table

/-!
# The written form of scopes

Scopes are written as a JSON object of objects, one entry on a line, each level indented by three
blanks.
-/

namespace Relabel.Scopes

/-- A character inside a written string. -/
def escapeChar (c : Char) : Text :=
  if c = '"' then ['\\', '"']
  else if c = '\\' then ['\\', '\\']
  else if c = '\x08' then ['\\', 'b']
  else if c = '\x0c' then ['\\', 'f']
  else if c = '\n' then ['\\', 'n']
  else if c = '\r' then ['\\', 'r']
  else if c = '\t' then ['\\', 't']
  else if c.toNat < 0x20 then
    ['\\', 'u', '0', '0', Nat.digitChar (c.toNat / 16), Nat.digitChar (c.toNat % 16)]
  else [c]

def renderString (t : Text) : Text :=
  '"' :: t.flatMap escapeChar ++ ['"']

/-- A line end and the indentation of the given depth. -/
def newLine (depth : Nat) : Text :=
  '\n' :: List.replicate (3 * depth) ' '

/-- One member of an object at the given depth. -/
def renderMember (depth : Nat) (key : Name) (value : Text) : Text :=
  newLine depth ++ renderString key ++ [':', ' '] ++ value

/-- The members of an object, from the line end before the first to that before
the closing brace. -/
def renderMembers (depth : Nat) : List (Name × Text) → Text
  | [] => []
  | [(key, value)] => renderMember depth key value ++ newLine (depth - 1)
  | (key, value) :: rest => renderMember depth key value ++ ',' :: renderMembers depth rest

def renderObject (depth : Nat) (members : List (Name × Text)) : Text :=
  '{' :: renderMembers depth members ++ ['}']

def renderTable (table : RenameTable) : Text :=
  renderObject 2 (table.entries.map fun (old, new) => (old, renderString new))

/-- The written form of scopes. -/
def render (scopes : Scopes) : Text :=
  renderObject 1 (scopes.entries.map fun (scope, table) => (scope, renderTable table))

end Relabel.Scopes

import Relabel.Database
import Relabel.Text.Word

/-!
# Declarations

Inside an entity, a line `NAME : …` declares a name. Only the name at the front of the
line is renamed.
-/

namespace Relabel.Declaration

open Text

/-- A declaration line: the indentation, the declared name, and the text from there on. -/
def split? (code : Text) : Option (Text × Name × Text) := do
  let start := skipBlanks code
  let (name, rest) ← word? start
  let _ ← skipChar? ':' (skipBlanks rest)
  return (upTo start code, name, rest)

/-- Renames the declared name of a line. -/
def rename (db : Database) (component : Name) (code : Text) : Text :=
  match split? code with
  | some (indent, name, rest) => indent ++ db.lookup .exact component name ++ rest
  | none => code

end Relabel.Declaration

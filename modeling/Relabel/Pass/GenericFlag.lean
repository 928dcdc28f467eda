import Relabel.Database
import Relabel.Text.Word

/-!
# Generic flags

A simulator script sets a generic with a flag `-gNAME`. The name behind the letter is renamed.
-/

namespace Relabel.GenericFlag

open Text

/-- Renames the name of a flag whose dash has been read. -/
def renameRun (f : Name → Name) : Text → Text
  | g :: c :: name => if (g = 'g' ∨ g = 'G') ∧ isWord c then g :: f (c :: name) else g :: c :: name
  | run => run

/-- Renames the flags among the runs of a text; `last` is the character in front of them. -/
def renameRuns (f : Name → Name) : (last : Option Char) → List Text → Text
  | _, [] => []
  | last, run :: more =>
      (if last = some '-' then renameRun f run else run) ++ renameRuns f run.getLast? more

/-- Renames every generic flag of a line. -/
def rename (db : Database) (component : Name) (code : Text) : Text :=
  renameRuns (db.lookup .folded component) none (runs code)

end Relabel.GenericFlag

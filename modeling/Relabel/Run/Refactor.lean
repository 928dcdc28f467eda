import Relabel.Pass
import Relabel.Session

/-!
# Refactoring files

The source passes over the files of trees, in place, and single passes from one file into another.
The first error stops a run; what was written before stays.
-/

namespace Relabel

/-- What the names in the files of a run are replaced by. -/
structure Refactoring where
  database : Database
  /-- The names that source files have. -/
  pattern : Glob
  /-- How the components of instantiations begin. -/
  lead : Name

/-- How many files a run went over, and how many of them it changed. -/
structure Tally where
  processed : Nat := 0
  changed : Nat := 0
deriving DecidableEq, Repr

namespace Tally

def record (tally : Tally) (changed : Bool) : Tally :=
  ⟨tally.processed + 1, tally.changed + if changed then 1 else 0⟩

instance : Add Tally where
  add a b := ⟨a.processed + b.processed, a.changed + b.changed⟩

end Tally

namespace Refactoring

/-- The error of a source pattern that cannot be read. -/
def badPattern (settings : RefactorSettings) (fault : GlobFault) : Error :=
  .config s!"Invalid source pattern '{String.ofList settings.sourcePattern}': {fault.message}"

/-- A refactoring by a database that has a scope. -/
def make (settings : RefactorSettings) (database : Database) : Except Error Refactoring := do
  database.ensureFilled
  let pattern ← (Glob.parse settings.sourcePattern).mapError (badPattern settings)
  return ⟨database, pattern, settings.componentPrefix⟩

/-- Runs passes over a text and reports what they report. -/
def applyPasses (r : Refactoring) (passes : List Pass) (text : Text) : Run Text := do
  let text' ← Run.ofExcept (Passes.run passes r.lead r.database text)
  Run.note (Passes.events r.lead r.database passes text)
  return text'

/-- Applies the source passes to a file in place, and tells whether they changed it. A file that
stays the same is not written. -/
def file (r : Refactoring) (path : Text) : Run Bool := do
  let shown := String.ofList path
  Run.say .info .refactor s!"Refactoring {shown}"
  let text ← Run.readSource path
  let text' ← r.applyPasses Pass.source text
  if text' = text then
    Run.say .debug .refactor s!"{shown} unchanged"
    return false
  else
    Run.writeSource path text'
    return true

/-- Applies the source passes to files one after the other. -/
def files (r : Refactoring) : Tally → List Text → Run Tally
  | tally, [] => return tally
  | tally, path :: rest => do
      let changed ← r.file path
      files r (tally.record changed) rest

/-- Applies the source passes to every matching file of a tree. -/
def tree (r : Refactoring) (root : Text) : Run Tally := do
  r.files {} (← Run.sourceFiles root r.pattern)

/-- Applies the source passes to trees one after the other. -/
def trees (r : Refactoring) : Tally → List Text → Run Tally
  | tally, [] => return tally
  | tally, root :: rest => do
      let more ← r.tree root
      trees r (tally + more) rest

/-- Runs one pass from a file into a file, and tells whether the text changed. -/
def passFile (r : Refactoring) (pass : Pass) (input output : Text) : Run Bool := do
  Run.say .debug .refactor
    s!"{String.ofList pass.label} pass: {String.ofList input} -> {String.ofList output}"
  let text ← Run.readSource input
  let text' ← r.applyPasses [pass] text
  Run.writeSource output text'
  return text' ≠ text

/-- Renames the generic flags of a simulator script in place. -/
def script (r : Refactoring) (path : Text) : Run Bool := do
  Run.say .info .refactor s!"Refactoring {String.ofList path}"
  r.passFile .simConfig path path

end Refactoring

end Relabel

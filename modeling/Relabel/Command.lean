import Relabel.Run.Library
import Relabel.Run.Refactor
import Relabel.Run.Storage

/-!
# Commands

What the program can be asked to do. A command is a run whose errors are reported under the step
that was being taken.
-/

namespace Relabel

/-- A run whose errors come with the steps that led to them. -/
abbrev Command := ExceptT Failure (StateM Session)

namespace Command

/-- Does a run as it is. -/
def run {α : Type} (run : Run α) : Command α :=
  ExceptT.adapt (fun e => ⟨[], e⟩) run

/-- Does a run as a step. -/
def step {α : Type} (doing : String) (run : Run α) : Command α :=
  ExceptT.adapt (fun e => ⟨[doing], e⟩) run

def say (level : Level) (message : String) : Command Unit :=
  run (Run.say level .commands message)

/-- Loads the database of a rename table. -/
def loadDatabase (settings : Settings) (path : Text) : Command Database := do
  let shown := String.ofList path
  let db ← step s!"Failed to load rename database {shown}" (Run.loadDatabase settings.database path)
  if db.isEmpty then
    say .warn s!"Rename database {shown} holds no scope"
  return db

/-- The tables that a merge starts from: those of the seed file, or the built-in ones. -/
def readSeed : Option Text → Command Scopes
  | none => return Merge.defaultSeed
  | some path => step s!"Failed to read seed table {String.ofList path}" (Run.readScopes path)

/-- Merges two versions of a library into a rename table and writes it. -/
def buildDatabase (settings : Settings) (old new db : Text) (seed : Option Text) :
    Command Scopes := do
  let shown := String.ofList db
  let seed ← readSeed seed
  let pattern ← run (Run.ofExcept settings.harvest.pattern)
  let scopes ← step "Failed to build rename database"
    (Run.mergeTrees settings.harvest pattern old new seed)
  step s!"Failed to write rename database {shown}" (Run.writeScopes db scopes)
  say .info s!"Wrote {scopes.size} scopes to {shown}"
  return scopes

/-- Loads a database and makes ready to refactor by it. -/
def prepare (settings : Settings) (db : Text) : Command Refactoring := do
  let db ← loadDatabase settings db
  run (Run.ofExcept (Refactoring.make settings.refactor db))

/-- Renames the generic flags of a script, if there is one. -/
def refactorScript (r : Refactoring) : Option Text → Command Unit
  | none => return
  | some path => do
      let _ ← step s!"Failed to refactor {String.ofList path}" (r.script path)

/-- Refactors trees in place, then the simulator script if one is given. -/
def refactor (settings : Settings) (db : Text) (script : Option Text) (roots : List Text) :
    Command Tally := do
  let r ← prepare settings db
  let tally ← step "Failed to refactor sources" (r.trees {} roots)
  say .info s!"Refactored {tally.processed} files, {tally.changed} changed"
  refactorScript r script
  return tally

/-- Runs one pass over a file, in place unless another output is given. -/
def passFile (settings : Settings) (db : Text) (pass : Pass) (input : Text) (output : Option Text) :
    Command Bool := do
  let label := String.ofList pass.label
  let output := output.getD input
  let r ← prepare settings db
  let changed ← step s!"Failed to run the {label} pass on {String.ofList input}"
    (r.passFile pass input output)
  let outcome := if changed then "changed" else "unchanged"
  say .info s!"{label}: {String.ofList output} {outcome}"
  return changed

/-- The declarations of a file, as text. -/
def analyze (file : Text) : Command Text := do
  let declared ← step s!"Failed to analyze {String.ofList file}" (Run.harvestFile file)
  return Scopes.render declared

end Command

end Relabel

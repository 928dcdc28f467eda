import Relabel.Command
import Relabel.CommandLine
import Relabel.Settings.Source
import Relabel.Settings.Validation

/-!
# The program

One run of the program: from the arguments, the environment and the disk to the exit code, what is
printed, and the disk afterwards.
-/

namespace Relabel

/-- What a run of the program leaves behind. -/
structure Outcome where
  exitCode : Nat := 0
  stdout : String := ""
  /-- The events that are shown. -/
  log : List Event := []
  /-- The report of a failure. -/
  report : String := ""
  disk : Disk

namespace Program

def version : String :=
  "hdlrefactor 0.1.0\n"

def usage : String :=
  "Rename generics, ports and functions across VHDL sources\n\n" ++
  "Usage: hdlrefactor [-c FILE] [-v] COMMAND\n\n" ++
  "Commands:\n" ++
  "  build-db [--seed FILE] OLD_DIR NEW_DIR DB_FILE\n" ++
  "  refactor -d FILE [--sim-config FILE] ROOTS...\n" ++
  "  rewrite -d FILE -p PASS [-o FILE] INPUT\n" ++
  "  analyze FILE\n" ++
  "  help [COMMAND]\n\n" ++
  "Passes: declarations, instantiations, symbols, sim-config\n"

/-- The paths that a run goes to. -/
def paths (i : Invocation) : List Text :=
  let config := i.config.getD Settings.defaultFile
  let named :=
    match i.request with
    | .buildDatabase old new db seed => [old, new, db] ++ seed.toList
    | .refactor db script roots => db :: script.toList ++ roots
    | .passFile db _ input output => [db, input] ++ output.toList
    | .analyze file => [file]
  [config, Settings.fileBeside config] ++ named

/-- Loads the settings and checks them. -/
def settings (disk : Disk) (env : Environment) (path : Option Text) : Except Error Settings := do
  let settings ← Settings.load disk env path
  settings.validate
  return settings

/-- Does what is asked, and gives what goes to standard output. -/
def perform (settings : Except Error Settings) : Request → Command String
  | .buildDatabase old new db seed => do
      let s ← Command.run (Run.ofExcept settings)
      let _ ← Command.buildDatabase s old new db seed
      return ""
  | .refactor db script roots => do
      let s ← Command.run (Run.ofExcept settings)
      let _ ← Command.refactor s db script roots
      return ""
  | .passFile db pass input output => do
      let s ← Command.run (Run.ofExcept settings)
      let _ ← Command.passFile s db pass input output
      return ""
  | .analyze file => do
      return String.ofList (← Command.analyze file) ++ "\n"

/-- Runs an invocation. -/
def invoke (disk : Disk) (env : Environment) (i : Invocation) : Outcome :=
  let (result, session) := Session.run disk (perform (settings disk env i.config) i.request)
  let limit : Level := if i.verbose then .debug else .info
  let shown := session.log.filter fun event => event.level.shownAt limit
  match result with
  | .ok out => { stdout := out, log := shown, disk := session.disk }
  | .error failure =>
      { exitCode := 1, log := shown, report := failure.report, disk := session.disk }

/-- Runs the program. -/
def run (disk : Disk) (env : Environment) (args : List Text) : Outcome :=
  match Invocation.ofArguments args with
  | .ok invocation => invoke disk env invocation
  | .error .help => { stdout := usage, disk }
  | .error .version => { stdout := version, disk }
  | .error .misuse => { exitCode := 2, report := usage, disk }

end Program

end Relabel

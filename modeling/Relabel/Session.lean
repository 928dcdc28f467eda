import Relabel.Disk
import Relabel.Event
import Relabel.Glob
import Relabel.Text.Quoted
import Relabel.Text.Utf8

/-!
# Runs on files

A run reads and writes a disk, reports events, and gives a result or stops with an error. What it
did to the disk and reported before it stopped stays.
-/

namespace Relabel

structure Session where
  disk : Disk
  log : List Event := []

/-- Does something from a disk on: its result, and the session that it leaves. -/
def Session.run {ε α : Type} (disk : Disk) (steps : ExceptT ε (StateM Session) α) :
    Except ε α × Session :=
  StateT.run (ExceptT.run steps) { disk }

/-- A run that may stop with an error. -/
abbrev Run := ExceptT Error (StateM Session)

namespace Run

/-- Reports events. -/
def note (events : List Event) : Run Unit :=
  modify fun session => { session with log := session.log ++ events }

/-- Reports one event. -/
def say (level : Level) (origin : Origin) (message : String) : Run Unit :=
  note [⟨level, origin, message⟩]

/-- Goes on with a result, or stops with an error. -/
def ofExcept {α : Type} : Except Error α → Run α
  | .ok a => pure a
  | .error e => throw e

/-- Reads the bytes of a file. -/
def readBytes (path : Text) : Run Bytes := do
  ofExcept (((← get).disk.read path).mapError .disk)

/-- Writes the bytes of a file. -/
def writeBytes (path : Text) (bytes : Bytes) : Run Unit := do
  let disk ← ofExcept (((← get).disk.write path bytes).mapError .disk)
  modify fun session => { session with disk := disk }

/-- Runs `run`; an error is put under what was being done. -/
def during {α : Type} (doing : String) (run : Run α) : Run α :=
  tryCatch run fun e => throw (.context doing e)

/-! ## Source files -/

/-- The error of a text that does not fit into single bytes. -/
def unencodable (path : Text) (c : Char) : Error :=
  .encoding (String.ofList path)
    s!"character {String.ofList (Text.quotedChar c)} cannot be written as a single byte"

/-- The bytes of a text that goes to a file. -/
def encode (path text : Text) : Except Error Bytes :=
  (Text.toBytes text).mapError (unencodable path)

/-- Reads a source file, a character for each byte. -/
def readSource (path : Text) : Run Text := do
  return Text.ofBytes (← during s!"Failed to read {String.ofList path}" (readBytes path))

/-- Writes a source file, a byte for each character. Nothing is written when a
character does not fit. -/
def writeSource (path text : Text) : Run Unit := do
  let bytes ← ofExcept (encode path text)
  during s!"Failed to write {String.ofList path}" (writeBytes path bytes)

/-! ## Files of a tree -/

/-- Splits the files met on a walk into those that the pattern accepts and the others. -/
def select (pattern : Glob) (met : List Disk.Met) : List Disk.Met × List Disk.Met :=
  met.partition fun file => pattern.accepts file.name

/-- The files at and below `root` with a name that the pattern accepts, in the order of the walk. A
walk that stops on its way is an error. -/
def sourceFiles (root : Text) (pattern : Glob) : Run (List Text) := do
  let walk := (← get).disk.walk root
  let (files, others) := select pattern walk.met
  note (others.map fun file => ⟨.trace, .walk, s!"Skipping {String.ofList file.path}"⟩)
  match walk.stop with
  | some (path, cause) =>
      throw (.context s!"Failed to walk {String.ofList root}"
        (.traversal (String.ofList path) cause))
  | none => return files.map (·.path)

end Run

end Relabel

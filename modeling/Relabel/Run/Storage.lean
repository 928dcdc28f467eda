import Relabel.Database
import Relabel.Scopes.Parser
import Relabel.Scopes.Printer
import Relabel.Session

/-!
# Rename tables on disk

Rename tables are kept in files as text in UTF-8. Reading one and adding what the settings ask
for makes a database.
-/

namespace Relabel

/-- The error of a text that is no rename table. -/
def Scopes.unreadable (fault : String) : Error :=
  .database s!"Failed to parse rename table: {fault}"

/-- The rename tables that a text holds. -/
def Scopes.ofText (text : Text) : Except Error Scopes :=
  (Scopes.parse text).mapError Scopes.unreadable

namespace Run

/-- The text of a file in UTF-8. -/
def readText (path : Text) : Run Text := do
  match Text.ofUtf8? (← readBytes path) with
  | some text => return text
  | none => throw (.disk .notUtf8)

/-- The error of a file that holds no rename table. -/
def unreadableFile (path : Text) (fault : String) : Error :=
  .database s!"{String.ofList path}: Failed to parse rename table: {fault}"

/-- Reads the rename tables of a file. -/
def readScopes (path : Text) : Run Scopes := do
  let shown := String.ofList path
  let text ← during s!"Failed to read rename table {shown}" (readText path)
  let scopes ← ofExcept ((Scopes.parse text).mapError (unreadableFile path))
  say .debug .storage s!"Read {scopes.size} scopes from {shown}"
  return scopes

/-- Writes rename tables to a file. -/
def writeScopes (path : Text) (scopes : Scopes) : Run Unit := do
  let shown := String.ofList path
  during s!"Failed to write rename table {shown}"
    (writeBytes path (Text.toUtf8 (Scopes.render scopes)))
  say .debug .storage s!"Wrote {scopes.size} scopes to {shown}"

/-- Builds a database from authored tables. -/
def buildDatabase (settings : DatabaseSettings) (authored : Scopes) : Run Database := do
  note (Database.buildEvents settings authored)
  return Database.build settings authored

/-- Reads the tables of a file and builds a database from them. -/
def loadDatabase (settings : DatabaseSettings) (path : Text) : Run Database := do
  buildDatabase settings (← readScopes path)

end Run

end Relabel

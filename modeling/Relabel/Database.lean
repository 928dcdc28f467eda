import Relabel.Error
import Relabel.Event
import Relabel.Settings
import Relabel.Table
import Relabel.Text.Case

/-!
# The rename database

A database is built once from authored scopes and then only asked for names. Building adds, in this
order, lower-case keys, test bench scopes and alias scopes.
-/

namespace Relabel

/-- The scope whose renames hold for every component. -/
def fallbackScope : Name :=
  "#ALL#".toList

/-- Scopes ready for look-ups. -/
structure Database where
  scopes : Scopes
deriving DecidableEq, Repr

namespace Database

/-! ## Building -/

/-- A table with every key in lower case beside it; of keys with one lower-case form the last
gives the new name. -/
def addLowered (table : RenameTable) : RenameTable :=
  table.insertAll (table.entries.map fun (old, new) => (Text.lower old, new))

def lowered (scopes : Scopes) : Scopes :=
  scopes.mapValues addLowered

/-- Scopes with a copy of each under its name and `suffix`. -/
def withTestbenches (suffix : Name) (scopes : Scopes) : Scopes :=
  scopes.insertAll (scopes.entries.map fun (scope, table) => (scope ++ suffix, table))

/-- Binds an alias to its target's table; without a target nothing happens. -/
def bindAlias (scopes : Scopes) (a : Alias) : Scopes :=
  match scopes.get? a.target with
  | some table => scopes.insert a.name table
  | none => scopes

/-- The scopes to which the aliases are added. -/
def expanded (settings : DatabaseSettings) (authored : Scopes) : Scopes :=
  let scopes := if settings.fixCase then lowered authored else authored
  if settings.addTestbenches then withTestbenches settings.testbenchSuffix scopes else scopes

def build (settings : DatabaseSettings) (authored : Scopes) : Database :=
  ⟨settings.aliases.foldl bindAlias (expanded settings authored)⟩

/-- A warning for every alias whose target is missing when its turn comes. -/
def aliasEvents : Scopes → List Alias → List Event
  | _, [] => []
  | scopes, a :: rest =>
      (match scopes.get? a.target with
        | some _ => []
        | none =>
            let name := String.ofList a.name
            let target := String.ofList a.target
            [⟨.warn, .database, s!"Skipping alias '{name}': scope '{target}' does not exist"⟩]) ++
        aliasEvents (bindAlias scopes a) rest

/-- What building reports. -/
def buildEvents (settings : DatabaseSettings) (authored : Scopes) : List Event :=
  aliasEvents (expanded settings authored) settings.aliases ++
    [⟨.debug, .database,
      s!"Rename database built with {(build settings authored).scopes.size} scopes"⟩]

/-! ## Asking -/

/-- Where a new name was found. -/
inductive Resolution where
  | inScope (new : Name)
  | inFallback (new : Name)
  | unchanged
deriving DecidableEq, Repr

def Resolution.new? : Resolution → Option Name
  | inScope new => some new
  | inFallback new => some new
  | unchanged => none

/-- How a name is looked up. -/
structure Query where
  /-- Lower the name first. -/
  caseFold : Bool
  /-- Ask the fallback scope when the component's scope has no answer. -/
  useFallback : Bool
deriving DecidableEq, Repr

/-- The name as it is, in the component's scope only. -/
def Query.exact : Query := ⟨false, false⟩

/-- The lowered name, in the component's scope and then in the fallback scope. -/
def Query.folded : Query := ⟨true, true⟩

/-- The new name that the table of a scope has for a key. -/
def newName? (db : Database) (scope key : Name) : Option Name :=
  (db.scopes.get? scope).bind fun table => table.get? key

def resolve (db : Database) (query : Query) (scope name : Name) : Resolution :=
  let key := if query.caseFold then Text.lower name else name
  match db.newName? scope key with
  | some new => .inScope new
  | none =>
      match if query.useFallback then db.newName? fallbackScope key else none with
      | some new => .inFallback new
      | none => .unchanged

/-- The new name of `name`, or `name` itself. -/
def lookup (db : Database) (query : Query) (scope name : Name) : Name :=
  (db.resolve query scope name).new?.getD name

def isEmpty (db : Database) : Bool :=
  db.scopes.isEmpty

/-- Refuses a database without scopes. -/
def ensureFilled (db : Database) : Except Error Unit :=
  if db.isEmpty then .error .emptyDatabase else .ok ()

end Database

end Relabel

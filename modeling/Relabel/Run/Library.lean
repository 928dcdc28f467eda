import Relabel.Harvest
import Relabel.Session

/-!
# Harvesting library trees

The declarations of all matching files of a tree, and the rename tables that two trees give.
-/

namespace Relabel

namespace HarvestSettings

/-- The error of a library pattern that cannot be read. -/
def badPattern (settings : HarvestSettings) (fault : GlobFault) : Error :=
  .config s!"Invalid library pattern '{String.ofList settings.libraryPattern}': {fault.message}"

/-- The pattern that library files match. -/
def pattern (settings : HarvestSettings) : Except Error Glob :=
  (Glob.parse settings.libraryPattern).mapError settings.badPattern

/-- A table without the blacklisted names. -/
def allowed (settings : HarvestSettings) (names : RenameTable) : RenameTable :=
  names.filterKeys fun name => !settings.blacklist.contains name

/-- Puts the declarations of a file over those of the files before it. -/
def addFile (settings : HarvestSettings) (sets declared : Declarations) : Declarations :=
  declared.entries.foldl
    (fun sets (component, names) => sets.insert component (settings.allowed names)) sets

end HarvestSettings

namespace Run

/-- The declarations of one file. -/
def harvestFile (path : Text) : Run Declarations := do
  let text ← readSource path
  note (Harvest.events text)
  return Harvest.ofText text

/-- Adds the declarations of files to those found before. -/
def harvestFiles (settings : HarvestSettings) : Declarations → List Text → Run Declarations
  | sets, [] => return sets
  | sets, path :: rest => do
      say .info .merge s!"Parsing {String.ofList path}"
      let declared ← harvestFile path
      harvestFiles settings (settings.addFile sets declared) rest

/-- The declarations of all matching files of a tree, without the blacklisted names. -/
def harvestTree (settings : HarvestSettings) (pattern : Glob) (root : Text) : Run Declarations := do
  harvestFiles settings ∅ (← sourceFiles root pattern)

/-- Harvests two versions of a library and merges them on top of a seed. -/
def mergeTrees (settings : HarvestSettings) (pattern : Glob) (old new : Text) (seed : Scopes) :
    Run Scopes := do
  let oldSets ← harvestTree settings pattern old
  let newSets ← harvestTree settings pattern new
  note (Merge.events settings.strategy seed oldSets newSets)
  return Merge.merge settings.strategy seed oldSets newSets

end Run

end Relabel

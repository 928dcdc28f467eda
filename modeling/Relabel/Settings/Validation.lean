import Relabel.Error
import Relabel.Glob
import Relabel.Settings
import Relabel.Text.Class

/-!
# Valid settings

Settings are checked before a command uses them. The checks have an order, and the first one that
fails is the one reported.
-/

namespace Relabel

/-- What can be wrong with settings. -/
inductive SettingsFault where
  | emptySuffix
  | selfAlias (name : Name)
  | emptyBlacklistName
  | badPattern (key : String) (pattern : Text) (fault : GlobFault)
  | badPrefix (text : Name)
deriving DecidableEq, Repr

def SettingsFault.message : SettingsFault → String
  | emptySuffix => "database.tb_suffix must not be empty when add_tb_variants is set"
  | selfAlias name => s!"Alias '{String.ofList name}' refers to itself"
  | emptyBlacklistName => "analyzer.blacklist must not contain empty names"
  | badPattern key pattern fault => s!"Invalid {key} '{String.ofList pattern}': {fault.message}"
  | badPrefix text =>
      s!"Invalid refactor.component_prefix '{String.ofList text}'. " ++
        "Must only contain word characters"

namespace Settings

def checkPattern (key : String) (pattern : Text) : Except SettingsFault Unit :=
  match Glob.parse pattern with
  | .ok _ => .ok ()
  | .error fault => .error (.badPattern key pattern fault)

/-- The first fault of the settings, if there is one. -/
def check (s : Settings) : Except SettingsFault Unit := do
  if s.database.addTestbenches ∧ s.database.testbenchSuffix = [] then
    .error .emptySuffix
  if let some a := s.database.aliases.find? fun a => a.name = a.target then
    .error (.selfAlias a.name)
  if s.harvest.blacklist.any List.isEmpty then
    .error .emptyBlacklistName
  checkPattern "analyzer.library_pattern" s.harvest.libraryPattern
  checkPattern "refactor.source_pattern" s.refactor.sourcePattern
  if s.refactor.componentPrefix.any fun c => ¬ (Text.isAlphanumeric c ∨ c = '_') then
    .error (.badPrefix s.refactor.componentPrefix)

def validate (s : Settings) : Except Error Unit :=
  s.check.mapError fun fault => .config fault.message

end Settings

end Relabel

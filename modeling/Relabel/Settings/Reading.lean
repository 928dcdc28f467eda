import Relabel.Settings
import Relabel.Settings.Value

/-!
# Settings from values

A section is a table of its fields, or a list of them in order; fields that are left out have their
defaults, and names that no field has are passed over. What values a field takes depends on the
reader: a strict one wants the field's own kind, a loose one converts.
-/

namespace Relabel

/-- How single fields are read. -/
structure SettingReader where
  bool? : SettingValue → Option Bool
  text? : SettingValue → Option Text
  strategy? : SettingValue → Option Strategy

namespace SettingReader

/-- The fields of a section, by name or by place. -/
def fields? (names : List String) : SettingValue → Option (List (Option SettingValue))
  | .table entries => some (names.map fun name => valueAt? name.toList entries)
  | .list items => some (names.mapIdx fun i _ => items[i]?)
  | _ => none

/-- A field, or its default when it is left out. -/
def orElse {α : Type} (read : SettingValue → Option α) (default : α) :
    Option SettingValue → Option α
  | none => some default
  | some value => read value

def list? {α : Type} (read : SettingValue → Option α) : SettingValue → Option (List α)
  | .list items => items.mapM read
  | _ => none

variable (r : SettingReader)

def aliasOf? (value : SettingValue) : Option Alias := do
  match ← fields? ["alias", "target"] value with
  | [name, target] => return ⟨← r.text? (← name), ← r.text? (← target)⟩
  | _ => none

def database? (value : SettingValue) : Option DatabaseSettings := do
  let base : DatabaseSettings := {}
  match ← fields? ["fix_case", "add_tb_variants", "tb_suffix", "aliases"] value with
  | [fixCase, addTestbenches, suffix, aliases] =>
      return { fixCase := ← orElse r.bool? base.fixCase fixCase
               addTestbenches := ← orElse r.bool? base.addTestbenches addTestbenches
               testbenchSuffix := ← orElse r.text? base.testbenchSuffix suffix
               aliases := ← orElse (list? r.aliasOf?) base.aliases aliases }
  | _ => none

def harvest? (value : SettingValue) : Option HarvestSettings := do
  let base : HarvestSettings := {}
  match ← fields? ["blacklist", "merge_strategy", "library_pattern"] value with
  | [blacklist, strategy, pattern] =>
      return { blacklist := ← orElse (list? r.text?) base.blacklist blacklist
               strategy := ← orElse r.strategy? base.strategy strategy
               libraryPattern := ← orElse r.text? base.libraryPattern pattern }
  | _ => none

def refactor? (value : SettingValue) : Option RefactorSettings := do
  let base : RefactorSettings := {}
  match ← fields? ["source_pattern", "component_prefix"] value with
  | [pattern, lead] =>
      return { sourcePattern := ← orElse r.text? base.sourcePattern pattern
               componentPrefix := ← orElse r.text? base.componentPrefix lead }
  | _ => none

/-- The settings that a value holds. -/
def settings? (value : SettingValue) : Option Settings := do
  match ← fields? ["database", "analyzer", "refactor"] value with
  | [database, harvest, refactor] =>
      return { database := ← orElse r.database? {} database
               harvest := ← orElse r.harvest? {} harvest
               refactor := ← orElse r.refactor? {} refactor }
  | _ => none

end SettingReader

/-- The strategy with a label, compared after `form` was applied to the given one. -/
def Strategy.ofLabel? (form : Text → Text) (label : Text) : Option Strategy :=
  [positional, nameAware].find? fun s => s.label = form label

/-- Takes the field's own kind only. A strategy may also be a table of its name alone,
with nothing in it. -/
def SettingReader.strict : SettingReader where
  bool?
    | .bool b => some b
    | _ => none
  text?
    | .text t => some t
    | _ => none
  strategy?
    | .text t => Strategy.ofLabel? id t
    | .table [(name, .table [])] => Strategy.ofLabel? id name
    | .table [(name, .list [])] => Strategy.ofLabel? id name
    | _ => none

/-- The truth that a word stands for. -/
def boolOfWord? (word : Text) : Option Bool :=
  let word := String.ofList (Text.lower word)
  if ["1", "true", "on", "yes"].contains word then some true
  else if ["0", "false", "off", "no"].contains word then some false
  else none

/-- Converts: numbers and some words are truths, truths and numbers have a text, and letter case
does not count in the name of a strategy. -/
def SettingReader.loose : SettingReader where
  bool?
    | .bool b => some b
    | .int n => some (n ≠ 0)
    | .float x => some (!x.isZero)
    | .text t => boolOfWord? t
    | _ => none
  text?
    | .text t => some t
    | .bool b => some (if b then "true" else "false").toList
    | .int n => some (toString n).toList
    | .float x => some x.plain
    | _ => none
  strategy?
    | .text t => Strategy.ofLabel? Text.lower t
    | .table [(name, _)] => Strategy.ofLabel? Text.lower name
    | _ => none

end Relabel

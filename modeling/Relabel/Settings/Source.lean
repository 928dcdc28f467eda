import Relabel.Disk
import Relabel.Settings.Reading
import Relabel.Text.Utf8
import Relabel.Toml.Document

/-!
# Where settings come from

A TOML text alone is read strictly. A settings file together with the environment is read loosely:
the variables go over what the file sets, and the defaults hold for the rest.
-/

namespace Relabel

/-- The variables of the environment. -/
abbrev Environment := List (Name × Text)

namespace Toml

mutual

/-- The value of an item. What becomes of a moment is up to the reader. -/
def Item.setting (moment : Text → SettingValue) : Item → SettingValue
  | .bool b => .bool b
  | .int n => .int n
  | .float x => .float x
  | .text t => .text t
  | .moment spelling => moment spelling
  | .array _ items => .list (settingItems moment items)
  | .table _ entries => .table (settingEntries moment entries)

def settingItems (moment : Text → SettingValue) : List Item → List SettingValue
  | [] => []
  | item :: rest => item.setting moment :: settingItems moment rest

def settingEntries (moment : Text → SettingValue) : Entries → SettingValue.Entries
  | [] => []
  | (name, item) :: rest => (name, item.setting moment) :: settingEntries moment rest

end

end Toml

namespace Settings

/-- A strict reader sees a moment as a table with one field that no section knows. -/
def unnamedField (spelling : Text) : SettingValue :=
  .table [([], .text spelling)]

/-- The settings of a TOML text. -/
def ofToml (text : Text) : Except Error Settings :=
  let found := do
    SettingReader.strict.settings? (.table (Toml.settingEntries unnamedField (← Toml.parse? text)))
  match found with
  | some settings => .ok settings
  | none => .error (.config "Failed to parse TOML")

/-! ## Variables -/

/-- Splits bytes at a byte. -/
def splitAt (mark : UInt8) : Bytes → List Bytes
  | [] => [[]]
  | b :: rest =>
      if b = mark then [] :: splitAt mark rest
      else
        match splitAt mark rest with
        | [] => [[b]]
        | part :: parts => (b :: part) :: parts

/-- The variables of a block of names and values, each with an equals sign between them and a zero
behind. -/
def variablesOf (block : Bytes) : Environment :=
  (splitAt 0 block).filterMap fun line => do
    let text ← Text.ofUtf8? line
    if text.isEmpty then none
    else return (text.takeWhile (· ≠ '='), (text.dropWhile (· ≠ '=')).drop 1)

/-- How the names of the variables begin that hold settings. -/
def variableMark : Text :=
  "hdlrefactor_".toList

/-- Writes a dot for each pair of underscores. -/
def dotted : Text → Text
  | '_' :: '_' :: rest => '.' :: dotted rest
  | c :: rest => c :: dotted rest
  | [] => []

/-- The whole number that a text spells: a sign and digits, within 64 bits. -/
def intOf? (t : Text) : Option Int :=
  let (negative, digits) := Toml.sign t
  let n := Toml.signed negative (Toml.ofDigits 10 digits)
  if !digits.isEmpty ∧ digits.all Char.isDigit ∧ fitsSigned64 n then some n else none

/-- The exponent behind the digits of a number; there may be none. -/
def exponentOf? : Text → Option Int
  | [] => some 0
  | c :: t =>
      let (negative, digits) := Toml.sign t
      if (c = 'e' ∨ c = 'E') ∧ !digits.isEmpty ∧ digits.all Char.isDigit then
        some (Toml.signed negative (Toml.ofDigits 10 digits))
      else none

/-- The number that a text spells: a sign, digits with or without a point, an exponent, or one of
the words for infinity and for no number. -/
def floatOf? (t : Text) : Option Binary64 :=
  let (negative, t) := Toml.sign t
  let word := String.ofList (Text.lower t)
  if word = "inf" ∨ word = "infinity" then some (.infinity negative)
  else if word = "nan" then some .nan
  else
    let whole := t.takeWhile Char.isDigit
    let rest := t.dropWhile Char.isDigit
    let (fraction, rest) :=
      match rest with
      | '.' :: rest => (rest.takeWhile Char.isDigit, rest.dropWhile Char.isDigit)
      | rest => ([], rest)
    if whole.isEmpty ∧ fraction.isEmpty then none
    else do
      let exponent ← exponentOf? rest
      return .ofDecimal negative (Toml.ofDigits 10 (whole ++ fraction)) (exponent - fraction.length)

/-- The parts of a text between commas. -/
def commaParts : Text → List Text
  | [] => [[]]
  | c :: rest =>
      if c = ',' then [] :: commaParts rest
      else
        match commaParts rest with
        | [] => [[c]]
        | part :: parts => (c :: part) :: parts

/-- The value that a variable gives to a key. -/
def variableValue (key : Name) (value : Text) : SettingValue :=
  let word := String.ofList (Text.lower value)
  if word = "true" then .bool true
  else if word = "false" then .bool false
  else
    match intOf? value, floatOf? value with
    | some n, _ => .int n
    | none, some x => .float x
    | none, none =>
        if key = "analyzer.blacklist".toList then .list ((commaParts value).map .text)
        else .text value

/-- What a variable sets, if it holds a setting. -/
def ofVariable? (name : Name) (value : Text) : Option (Name × SettingValue) :=
  let name := Text.lower name
  if variableMark.isPrefixOf name then
    let key := dotted (name.drop variableMark.length)
    some (key, variableValue key value)
  else none

/-- What the environment sets; of variables with one key the last one counts. -/
def ofEnvironment (env : Environment) : SettingValue.Entries :=
  env.foldl
    (fun sets (name, value) =>
      match ofVariable? name value with
      | some (key, value) => putEntry key value sets
      | none => sets)
    []

/-! ## Files -/

/-- How the names of settings files end. -/
def fileEnding : Text :=
  ".toml".toList

/-- What the name of a file has behind its last dot, if that is not its first character. -/
def extension (name : Name) : Name :=
  let ending := name.reverse.takeWhile (· ≠ '.')
  if ending.length + 1 < name.length then ending.reverse else []

/-- A path without the slashes and the single dots at its end. -/
def trimmed (path : Text) : Text :=
  let names := (pathNames path).reverse.dropWhile fun name => name = [] ∨ name = ['.']
  ['/'].intercalate names.reverse

/-- The file of the same name next to a directory. -/
def fileBeside (path : Text) : Text :=
  trimmed path ++ fileEnding

/-- The file that is read for a path: the path itself if it is a file in the format, or the file
next to a directory. -/
def fileFor? (disk : Disk) (path : Text) : Option Text :=
  if disk.isFile path then
    if extension (pathName path) = fileEnding.drop 1 then some path else none
  else
    let name := pathName (trimmed path)
    if name ≠ [] ∧ name ≠ ['.', '.'] ∧ disk.isFile (fileBeside path) then some (fileBeside path)
    else none

/-- What a settings file sets. -/
def ofFile? (disk : Disk) (path : Text) : Option SettingValue.Entries := do
  let file ← fileFor? disk path
  let text ← Text.ofUtf8? (← (disk.read file).toOption)
  return Toml.settingEntries .text (← Toml.withMoments? (← Toml.parse? text))

/-- The settings of a file, if it is there, with the environment over it. -/
def ofFile (disk : Disk) (env : Environment) (path : Text) : Except Error Settings := do
  let sets ←
    if disk.exists? path then
      match ofFile? disk path with
      | some sets => pure sets
      | none => .error (.config "Failed to build config")
    else pure []
  let value := SettingValue.setAll (sets ++ ofEnvironment env) (.table [])
  match SettingReader.loose.settings? value with
  | some settings => return settings
  | none => .error (.config "Failed to deserialize config")

/-- The settings of a named file, which has to be there, or of the default file. -/
def load (disk : Disk) (env : Environment) : Option Text → Except Error Settings
  | none => ofFile disk env defaultFile
  | some path =>
      if disk.exists? path then ofFile disk env path
      else .error (.config s!"Config file not found: {String.ofList path}")

end Settings

end Relabel

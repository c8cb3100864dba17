import ScopeScanner.Files.Tree
import ScopeScanner.Settings.Basic
import ScopeScanner.Settings.Key
import ScopeScanner.Toml.Reader

/-!
# Layers of settings

Settings are put together from layers: the defaults, then files in the order in which they are given,
then single values. A layer holds only what it changes. What comes out is read as settings in the
end, so a value of a wrong kind is noticed only if no later layer replaces it.
-/

namespace ScopeScanner

/-- Why settings could not be loaded. -/
inductive SettingsError where
  /-- A file is not there, or not a text. -/
  | unreadableFile
  /-- A file is not TOML. -/
  | malformedFile
  /-- A key is not well formed. -/
  | malformedKey
  /-- A value is of a kind that cannot be converted. -/
  | wrongKind
  /-- A section is not a table, or a value is missing in it. -/
  | wrongSection
deriving DecidableEq, Repr

/-- What went wrong, in words. -/
def SettingsError.message : SettingsError → String
  | unreadableFile => "the file was not found or is not a text"
  | malformedFile => "the file is not TOML"
  | malformedKey => "a key is not well formed"
  | wrongKind => "a value is of the wrong kind"
  | wrongSection => "a section is not a table with all values"

/-- A layer of settings. -/
inductive Layer where
  /-- A file that has to be there. -/
  | file (path : String)
  /-- A file that may be missing. -/
  | optionalFile (path : String)
  /-- A single value, which counts more than all files. -/
  | value (key : String) (value : Value)

namespace Settings

/-- The defaults as a value. -/
def defaults : Value :=
  let scanner : ScannerSettings := {}
  let snapshot : SnapshotSettings := {}
  .table [
    ("scanner", .table [
      ("stall_limit", .integer scanner.stallLimit),
      ("backtrack_limit", .integer scanner.backtrackLimit),
      ("merge_tokens", .bool scanner.mergeTokens)]),
    ("snapshot", .table [
      ("fixture_suffix", .text snapshot.fixtureSuffix),
      ("snapshot_suffix", .text snapshot.snapshotSuffix)])]

/-- The text of a settings file, without a byte order mark. If there is no such file, one with the
extension of settings files is looked for. -/
def fileText? (files : FileTree) (path : String) : Option String :=
  match (files.content? path).or (files.content? (path ++ ".toml")) with
  | some (.text text) =>
    let chars := text.toList
    some (String.ofList (if chars.head? = some '\uFEFF' then chars.drop 1 else chars))
  | _ => none

/-- Lays the entries of a file over a value. The names on top may be keys. -/
def layOver (target : Value) (entries : List (String × Value)) : Value :=
  entries.foldl
    (fun target entry =>
      target |> Value.assign entry.2 ((SettingKey.ofText? entry.1).getD [.name entry.1]))
    target

/-- Adds a file. -/
def addFile (files : FileTree) (path : String) (required : Bool) (target : Value) :
    Except SettingsError Value :=
  match fileText? files path with
  | none => if required then throw .unreadableFile else return target
  | some text =>
    match Toml.read text with
    | none => throw .malformedFile
    | some entries => return layOver target entries

/-- Adds the files among the layers. -/
def addFiles (files : FileTree) : List Layer → Value → Except SettingsError Value
  | [], target => return target
  | .file path :: rest, target => do addFiles files rest (← addFile files path true target)
  | .optionalFile path :: rest, target => do addFiles files rest (← addFile files path false target)
  | .value _ _ :: rest, target => addFiles files rest target

/-- The single values among the layers. -/
def assignments : List Layer → Except SettingsError (List (SettingKey × Value))
  | [] => return []
  | .value key value :: rest => do
    match SettingKey.ofText? key with
    | none => throw .malformedKey
    | some steps => return (steps, value) :: (← assignments rest)
  | _ :: rest => assignments rest

/-- The values of a section in the order of its fields. A section may also be an array. -/
def sectionFields (names : List String) : Option Value → Except SettingsError (List (Option Value))
  | some (.table entries) => return names.map fun name => entries.lookup name
  | some (.array items) => return (List.range names.length).map (items[·]?)
  | _ => throw .wrongSection

/-- Converts the value of a field. -/
def convert {α : Type} (conversion : Value → Option α) (field : Option Value) :
    Except SettingsError (Option α) :=
  match field with
  | none => return none
  | some value =>
    match conversion value with
    | some result => return some result
    | none => throw .wrongKind

/-- Reads the section with the settings of a scan. -/
def scannerSection (section? : Option Value) : Except SettingsError ScannerSettings := do
  match ← sectionFields ["stall_limit", "backtrack_limit", "merge_tokens"] section? with
  | [stallLimit, backtrackLimit, mergeTokens] =>
    let stallLimit ← convert Value.number? stallLimit
    let backtrackLimit ← convert Value.number? backtrackLimit
    match stallLimit, backtrackLimit, ← convert Value.truth? mergeTokens with
    | some stallLimit, some backtrackLimit, some mergeTokens =>
      return { stallLimit, backtrackLimit, mergeTokens }
    | _, _, _ => throw .wrongSection
  | _ => throw .wrongSection

/-- Reads the section with the names of fixtures and snapshots. -/
def snapshotSection (section? : Option Value) : Except SettingsError SnapshotSettings := do
  match ← sectionFields ["fixture_suffix", "snapshot_suffix"] section? with
  | [fixtureSuffix, snapshotSuffix] =>
    let fixtureSuffix ← convert Value.text? fixtureSuffix
    match fixtureSuffix, ← convert Value.text? snapshotSuffix with
    | some fixtureSuffix, some snapshotSuffix => return { fixtureSuffix, snapshotSuffix }
    | _, _ => throw .wrongSection
  | _ => throw .wrongSection

/-- Reads settings from a value. -/
def ofValue (value : Value) : Except SettingsError Settings := do
  return {
    scanner := ← scannerSection (value.entries.lookup "scanner")
    snapshot := ← snapshotSection (value.entries.lookup "snapshot") }

/-- Loads settings from layers over the defaults. A malformed key is noticed before any file is
read. -/
def load (files : FileTree) (layers : List Layer) : Except SettingsError Settings := do
  let assignments ← assignments layers
  let target ← addFiles files layers defaults
  ofValue (assignments.foldl (fun target (key, value) => target |> Value.assign value key) target)

end Settings

end ScopeScanner

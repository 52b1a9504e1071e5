import StorageTopology.Settings.Basic
import StorageTopology.Settings.Files
import StorageTopology.Toml.Bounds
import StorageTopology.Toml.Document

/-!
# Settings files

A settings file is a TOML document; `parse` is `from_toml_str`. Every setting has a default, and
keys that mean nothing are skipped, as long as the numbers under them are bounded. A group of
settings may also be an array of its settings in their order, of which what is left over is not
looked at, and a point in time is a group that gives none. A choice may also be a table with the
choice as its one key and nothing in it. The settings that a file gives must be within bounds.
-/

namespace StorageTopology

/-- Why there are no settings. -/
inductive SettingsError where
  | io (path : String) (cause : FileError)
  | malformed
  | invalid (cause : SettingFault)
  deriving DecidableEq, Repr

namespace SettingsError

/-- The error in words. -/
def message : SettingsError → String
  | .io path cause => "cannot read " ++ path ++ ": " ++ cause.message
  | .malformed => "invalid configuration: malformed settings"
  | .invalid cause => "invalid configuration: " ++ cause.message

end SettingsError

namespace Toml.Value

/-- The values of `names` in a group, `none` for one that is not there. -/
def group? (names : List String) : Value → Option (List (Option Value))
  | .table _ entries =>
    if entriesBounded (entries.filter fun e => !names.contains e.1) then
      some (names.map fun name => entries.lookup name)
    else none
  | .array items => some (names.zipIdx.map fun name => items[name.2]?)
  | .tables items => some (names.zipIdx.map fun name => items[name.2]?.map (.table .header))
  | .moment _ => some (names.map fun _ => none)
  | _ => none

/-- A text. -/
def text? : Value → Option String
  | .text s => some s
  | _ => none

/-- An integer of 32 bits. -/
def int32? : Value → Option Int32
  | .integer n => do
    let v ← n.value?
    if Int32.minValue.toInt ≤ v ∧ v ≤ Int32.maxValue.toInt then some (Int32.ofInt v) else none
  | _ => none

/-- An element of a finite set by its name. -/
def named? {α : Type} [Named α] : Value → Option α
  | .text s => Named.ofName? s
  | .table _ [(key, .table _ [])] => Named.ofName? key
  | .table _ [(key, .array [])] => Named.ofName? key
  | _ => none

end Toml.Value

/-- A setting that has a value when it is not there. -/
def settingOr {α : Type} (absent : α) (read : Toml.Value → Option α) :
    Option Toml.Value → Option α
  | none => some absent
  | some v => read v

namespace CaptureSettings

/-- The captured level in a group. -/
def ofToml? (v : Toml.Value) : Option CaptureSettings := do
  let [level] ← v.group? ["level"] | none
  let level ← settingOr default.level Toml.Value.int32? level
  some ⟨level⟩

end CaptureSettings

namespace DiscoverySettings

/-- The tools in a group. -/
def ofToml? (v : Toml.Value) : Option DiscoverySettings := do
  let [source, parted, lsblk] ← v.group? ["source", "parted", "lsblk"] | none
  let source ← settingOr default.source Toml.Value.named? source
  let parted ← settingOr default.parted Toml.Value.text? parted
  let lsblk ← settingOr default.lsblk Toml.Value.text? lsblk
  some ⟨source, parted, lsblk⟩

end DiscoverySettings

namespace Settings

/-- The settings in a document. -/
def ofToml? (v : Toml.Value) : Option Settings := do
  let [capture, discovery] ← v.group? ["capture", "discovery"] | none
  let capture ← settingOr .default CaptureSettings.ofToml? capture
  let discovery ← settingOr .default DiscoverySettings.ofToml? discovery
  some ⟨capture, discovery⟩

/-- The settings in the text of a settings file. -/
def parse (text : String) : Except SettingsError Settings :=
  match (Toml.parse? text).bind fun entries => ofToml? (.table .header entries) with
  | none => .error .malformed
  | some s =>
    match s.validate with
    | .ok () => .ok s
    | .error cause => .error (.invalid cause)

/-- The settings in the file at `path`. -/
def load (files : Files) (path : String) : Except SettingsError Settings :=
  match files.readText path with
  | .ok text => parse text
  | .error cause => .error (.io path cause)

end Settings

end StorageTopology

import StorageTopology.Json.Named
import StorageTopology.Settings.Basic

/-!
# Settings in JSON

The groups of `BridgeConfig`. Every field has a default.
-/

namespace StorageTopology

open Json

namespace CaptureSettings

/-- The record of the captured level. -/
def toJson (c : CaptureSettings) : Value := .record [("level", .int c.level.toInt)]

/-- Read the captured level. -/
def ofJson? (v : Value) : Option CaptureSettings := do
  let [level] ← v.fields? [optionalField "level"] | none
  let level ← withDefault default.level Value.int32? level
  some ⟨level⟩

end CaptureSettings

namespace DiscoverySettings

/-- The record of the tools. -/
def toJson (d : DiscoverySettings) : Value :=
  .record [("source", .ofNamed d.source), ("parted", .str d.parted), ("lsblk", .str d.lsblk)]

/-- Read the tools. -/
def ofJson? (v : Value) : Option DiscoverySettings := do
  let [source, parted, lsblk] ←
    v.fields? [optionalField "source", optionalField "parted", optionalField "lsblk"] | none
  let source ← withDefault default.source Value.named? source
  let parted ← withDefault default.parted Value.str? parted
  let lsblk ← withDefault default.lsblk Value.str? lsblk
  some ⟨source, parted, lsblk⟩

end DiscoverySettings

namespace Settings

/-- The record of all settings. -/
def toJson (s : Settings) : Value :=
  .record [("capture", s.capture.toJson), ("discovery", s.discovery.toJson)]

/-- Read all settings. -/
def ofJson? (v : Value) : Option Settings := do
  let [capture, discovery] ← v.fields? [optionalField "capture", optionalField "discovery"] | none
  let capture ← withDefault .default CaptureSettings.ofJson? capture
  let discovery ← withDefault .default DiscoverySettings.ofJson? discovery
  some ⟨capture, discovery⟩

end Settings

end StorageTopology

import StorageTopology.Diagnostics.Sink
import StorageTopology.Text.Blank
import StorageTopology.Text.Named

/-!
# Settings

The settings (`BridgeConfig`) say at which level messages are captured, which of two tools
describes a disk, and what the programs of the two tools are called. `validate` finds the first
setting that is out of bounds.
-/

namespace StorageTopology

open Diagnostics

/-- The tool that describes a disk: `parted` knows geometry and offsets, `lsblk` knows media
flags and mount points. -/
inductive DiscoverySource where
  | parted
  | lsblk
  deriving DecidableEq, Repr

/-- The tools by the names that settings and options use. -/
instance : Named DiscoverySource where
  all := [.parted, .lsblk]
  name
    | .parted => "parted"
    | .lsblk => "lsblk"
  find?_name a := by cases a <;> rfl

/-- The level of the messages that are captured. -/
structure CaptureSettings where
  level : Int32
  deriving DecidableEq, Repr

/-- The tool to use, and the program of each tool: a name to look up, or a path. -/
structure DiscoverySettings where
  source : DiscoverySource
  parted : String
  lsblk : String
  deriving DecidableEq, Repr

/-- All settings. -/
structure Settings where
  capture : CaptureSettings
  discovery : DiscoverySettings
  deriving DecidableEq, Repr

/-- A setting that is out of bounds; `emptyProgram` holds the name of the setting. -/
inductive SettingFault where
  | captureLevel (level : Int32)
  | emptyProgram (setting : String)
  deriving DecidableEq, Repr

namespace SettingFault

/-- The fault in words. -/
def message : SettingFault → String
  | .captureLevel level => "capture.level must be between 0 and 7, got " ++ level.toInt.repr
  | .emptyProgram setting => setting ++ " must not be empty"

end SettingFault

namespace CaptureSettings

/-- The level at which the engine prints results. -/
def default : CaptureSettings := ⟨captureLevel⟩

/-- The sink that keeps messages of the captured level in the queue `q`. -/
def sink (c : CaptureSettings) (q : QueueId) : Sink := ⟨q, c.level⟩

end CaptureSettings

namespace DiscoverySettings

/-- `parted`, and each program under its own name. -/
def default : DiscoverySettings := ⟨.parted, "parted", "lsblk"⟩

/-- The program of the tool in use. -/
def program (d : DiscoverySettings) : String :=
  match d.source with
  | .parted => d.parted
  | .lsblk => d.lsblk

end DiscoverySettings

namespace Settings

/-- The settings without a settings file. -/
def default : Settings := ⟨.default, .default⟩

/-- Levels run from 0 to 7, and a program has a name. -/
def validate (s : Settings) : Except SettingFault Unit :=
  if s.capture.level < 0 ∨ 7 < s.capture.level then .error (.captureLevel s.capture.level)
  else if Text.isAllBlank s.discovery.parted then .error (.emptyProgram "discovery.parted")
  else if Text.isAllBlank s.discovery.lsblk then .error (.emptyProgram "discovery.lsblk")
  else .ok ()

end Settings

end StorageTopology

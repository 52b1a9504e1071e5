import StorageTopology.Discovery.Lsblk
import StorageTopology.Discovery.Parted
import StorageTopology.Discovery.Tool
import StorageTopology.Settings.Basic

/-!
# Describing a disk

`locate` (`locate_disk`) runs the tool that the settings name on one disk and reads its output.
Only `parted` is trusted with a failure: it fails on a disk without a partition table, and still
describes it.
-/

namespace StorageTopology.Discovery

/-- The columns that `lsblk` is asked for. -/
def lsblkColumns : String := "NAME,PATH,SIZE,RM,RO,TYPE,FSTYPE,MOUNTPOINTS,MODEL,TRAN,PTTYPE"

/-- The arguments of a tool that describes the disk at `path`. -/
def arguments (source : DiscoverySource) (path : String) : List String :=
  match source with
  | .parted => ["-sj", path, "unit", "MiB", "print"]
  | .lsblk => ["-J", "-o", lsblkColumns, path]

/-- Whether what a failed run printed is used. -/
def acceptsPartial : DiscoverySource → Bool
  | .parted => true
  | .lsblk => false

/-- The disk that an output describes. -/
def parseOutput : DiscoverySource → String → Except Failure Disk
  | .parted => Parted.parse
  | .lsblk => Lsblk.parse

/-- The run that took place, if one did, and the disk. -/
structure Located where
  call : Option Call
  result : Except Failure Disk

/-- Describe the disk at `path`. -/
def locate (tools : Toolbox) (settings : DiscoverySettings) (path : String) : Located :=
  if path.isEmpty then ⟨none, .error (.argument .emptyDiskPath)⟩
  else
    let source := settings.source
    let (call, output) :=
      runTool tools settings.program (arguments source path) (acceptsPartial source)
    ⟨call, output.bind (parseOutput source)⟩

end StorageTopology.Discovery

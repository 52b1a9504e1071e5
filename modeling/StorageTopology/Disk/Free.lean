import StorageTopology.Decimal.Scientific
import StorageTopology.Disk
import StorageTopology.Text.Blank

/-!
# Unallocated regions of a disk

Offsets and sizes are figures in MiB, such as `512MiB` or `1.00MiB`. `parseMib` (`parse_mib`) reads
them. For `freeRegions` (`free_regions`), the spans of the partitions that have both a start and an
end, ordered by start, leave a region between two neighbours where the first ends before the second
starts, and one after the last span if that ends before the disk does. A disk without spans is one
region.
-/

namespace StorageTopology

/-- An unallocated span of a disk, in MiB. -/
structure FreeRegion where
  start : Binary64
  finish : Binary64
  deriving DecidableEq, Repr

namespace FreeRegion

/-- The length in MiB. -/
def length (r : FreeRegion) : Binary64 := r.finish.sub r.start

end FreeRegion

namespace Disk

/-- What stands before the unit of a figure in MiB. -/
def beforeUnit? (cs : List Char) : Option (List Char) :=
  let unit := "MiB".toList
  if unit.isSuffixOf cs then some (cs.take (cs.length - unit.length)) else none

theorem beforeUnit?_eq_some_iff {cs rest : List Char} :
    beforeUnit? cs = some rest ↔ cs = rest ++ "MiB".toList := by
  unfold beforeUnit?
  simp only
  split
  · rename_i h
    obtain ⟨head, rfl⟩ := List.isSuffixOf_iff_suffix.mp h
    simp
  · rename_i h
    refine ⟨nofun, fun hcs => absurd ?_ h⟩
    exact List.isSuffixOf_iff_suffix.mpr ⟨rest, hcs.symm⟩

/-- The number of MiB that `value` writes: finite, and not below zero. Blanks around the number
and around the whole are allowed. -/
def parseMib (value : String) : Except TopologyError Binary64 :=
  let figure? : Option Binary64 := do
    let number ← beforeUnit? (Text.trimmed value.toList)
    let s ← Scientific.read? (Text.trimmed number)
    let x := s.nearest
    if x.isFinite && !x.lt (.zero false) then some x else none
  match figure? with
  | some x => .ok x
  | none => .error (.invalidSize value)

/-- The start and the end of a partition, if it has both. -/
def span? (p : Partition) : Except TopologyError (Option (Binary64 × Binary64)) :=
  match p.start, p.finish with
  | some s, some e => do
    let s ← parseMib s
    let e ← parseMib e
    .ok (some (s, e))
  | _, _ => .ok none

/-- The regions between neighbours in a list of spans. -/
def gaps : List (Binary64 × Binary64) → List FreeRegion
  | a :: b :: spans =>
    if a.2.lt b.1 then ⟨a.2, b.1⟩ :: gaps (b :: spans) else gaps (b :: spans)
  | _ => []

/-- The regions that `spans`, in order of their starts, leave on a disk that ends at `size`. -/
def regionsBeside (size : Binary64) (spans : List (Binary64 × Binary64)) : List FreeRegion :=
  match spans.getLast? with
  | none => [⟨.zero false, size⟩]
  | some last => gaps spans ++ if last.2.lt size then [⟨last.2, size⟩] else []

/-- The unallocated regions of a disk. -/
def freeRegions (d : Disk) : Except TopologyError (List FreeRegion) := do
  let size ← parseMib d.size
  let spans ← d.partitions.mapM span?
  .ok (regionsBeside size ((spans.filterMap id).mergeSort fun a b => a.1.totalLe b.1))

end Disk

end StorageTopology

import Mathlib.Algebra.Order.Field.Basic
import Mathlib.Algebra.Order.Field.Rat
import Mathlib.Data.List.Basic
import StorageTopology.Disk.Free
import StorageTopology.Proofs.Traversal

/-!
# Unallocated regions and the spans of partitions

Regions are taken from the spans of partitions in the order of their starts, each from the end of
one span to the start of the next one, or to the end of the disk. Only neighbours are compared, so
a span that reaches past the end of a later one is lost sight of.

* `mem_regionsBeside_iff`: a region follows one span and ends at the start of the next one, or where
  the disk ends.
* `region_within_extended`: so a region may lie within a partition, namely one that contains others.
* `regionOverlap_of_freeRegions`: it does exactly if it begins at the end of a span that is nested
  in that of the partition. Spans that are not nested are clear of all regions.
-/

namespace StorageTopology

theorem Binary64.scaled_le_of_totalLe {x y : Binary64} (h : x.totalLe y = true) :
    x.scaled ≤ y.scaled := by
  simp only [totalLe, Bool.or_eq_true, Bool.and_eq_true, decide_eq_true_eq] at h
  omega

namespace Disk

/-! ## Regions by the spans that they follow -/

/-- The region from the end of the span `a` to `next`, unless nothing is between them. -/
def regionBefore (next : Binary64) (a : Binary64 × Binary64) : List FreeRegion :=
  if a.2.lt next then [⟨a.2, next⟩] else []

/-- Where a region ends that the spans `after` follow, on a disk that ends at `size`. -/
def regionEnd (size : Binary64) : List (Binary64 × Binary64) → Binary64
  | [] => size
  | b :: _ => b.1

section Regions

variable {size next : Binary64} {r : FreeRegion} {a b : Binary64 × Binary64}
  {after : List (Binary64 × Binary64)}

theorem mem_regionBefore_iff : r ∈ regionBefore next a ↔ r = ⟨a.2, next⟩ ∧ a.2.lt next := by
  unfold regionBefore
  split
  · rename_i hlt
    rw [List.mem_singleton, and_iff_left hlt]
  · rename_i hlt
    exact ⟨nofun, fun h => absurd h.2 hlt⟩

theorem regionsBeside_singleton : regionsBeside size [a] = regionBefore size a := rfl

theorem regionsBeside_cons_cons :
    regionsBeside size (a :: b :: after) =
      regionBefore b.1 a ++ regionsBeside size (b :: after) := by
  unfold regionsBeside regionBefore
  rw [List.getLast?_cons_cons, List.getLast?_cons, gaps]
  by_cases hlt : a.2.lt b.1
  · simp only [if_pos hlt, List.cons_append, List.nil_append]
  · simp only [if_neg hlt, List.nil_append]

/-- **A region follows a span** and ends where the next one starts, or where the disk ends. -/
theorem mem_regionsBeside_iff : ∀ {spans : List (Binary64 × Binary64)}, spans ≠ [] →
    (r ∈ regionsBeside size spans ↔ ∃ before a after, spans = before ++ a :: after ∧
      r ∈ regionBefore (regionEnd size after) a)
  | [], h => absurd rfl h
  | [a], _ => by
    rw [regionsBeside_singleton]
    constructor
    · exact fun hr => ⟨[], a, [], rfl, hr⟩
    · rintro ⟨before, c, after, hspans, hr⟩
      obtain ⟨rfl, rfl, rfl⟩ : before = [] ∧ c = a ∧ after = [] := by
        simpa using List.append_eq_singleton_iff.mp hspans.symm
      exact hr
  | a :: b :: rest, _ => by
    rw [regionsBeside_cons_cons, List.mem_append, mem_regionsBeside_iff (List.cons_ne_nil b rest)]
    constructor
    · rintro (hr | ⟨before, c, after, hspans, hr⟩)
      · exact ⟨[], a, b :: rest, rfl, hr⟩
      · exact ⟨a :: before, c, after, by rw [hspans, List.cons_append], hr⟩
    · rintro ⟨before, c, after, hspans, hr⟩
      cases before with
      | nil =>
        obtain ⟨rfl, rfl⟩ := List.cons.inj hspans
        exact .inl hr
      | cons d before => exact .inr ⟨before, c, after, (List.cons.inj hspans).2, hr⟩

end Regions

/-! ## The spans of a disk -/

/-- A partition of the disk has the span `s`: its start and its end are known. -/
def HasSpan (d : Disk) (s : Binary64 × Binary64) : Prop :=
  ∃ p ∈ d.partitions, span? p = .ok (some s)

theorem freeRegions_of_spans {d : Disk} {size : Binary64}
    {found : List (Option (Binary64 × Binary64))} (hsize : parseMib d.size = .ok size)
    (hfound : d.partitions.mapM span? = .ok found) :
    d.freeRegions = .ok (regionsBeside size
      ((found.filterMap id).mergeSort fun a b => a.1.totalLe b.1)) := by
  unfold freeRegions
  rw [hsize, hfound]
  rfl

theorem pairwise_mergeSort_starts (spans : List (Binary64 × Binary64)) :
    (spans.mergeSort fun a b => a.1.totalLe b.1).Pairwise fun a b =>
      a.1.scaled ≤ b.1.scaled := by
  have htrans (a b c : Binary64 × Binary64) (hab : a.1.totalLe b.1 = true)
      (hbc : b.1.totalLe c.1 = true) : a.1.totalLe c.1 = true := Binary64.totalLe_trans hab hbc
  have htotal (a b : Binary64 × Binary64) : (a.1.totalLe b.1 || b.1.totalLe a.1) = true :=
    Binary64.totalLe_total a.1 b.1
  exact (List.pairwise_mergeSort htrans htotal spans).imp Binary64.scaled_le_of_totalLe

/-- The regions of a disk stand beside its spans in the order of their starts. -/
theorem exists_spans_of_freeRegions {d : Disk} {rs : List FreeRegion}
    (h : d.freeRegions = .ok rs) : ∃ size spans, parseMib d.size = .ok size ∧
      (∀ s, s ∈ spans ↔ d.HasSpan s) ∧
        spans.Pairwise (fun a b => a.1.scaled ≤ b.1.scaled) ∧ rs = regionsBeside size spans := by
  cases hsize : parseMib d.size with
  | error cause =>
    unfold freeRegions at h
    exact absurd (hsize ▸ h) nofun
  | ok size =>
    cases hfound : d.partitions.mapM span? with
    | error cause =>
      unfold freeRegions at h
      exact absurd (hfound ▸ hsize ▸ h) nofun
    | ok found =>
      rw [freeRegions_of_spans hsize hfound] at h
      refine ⟨size, _, rfl, fun s => ?_, pairwise_mergeSort_starts _, (Except.ok.inj h).symm⟩
      rw [List.mem_mergeSort, HasSpan, ← mem_of_mapM_eq_ok hfound]
      simp

/-! ## Regions within partitions -/

/-- `x` lies strictly between two figures, in the unit of which figures are whole multiples. -/
def Between (x : ℚ) (start finish : Binary64) : Prop := start.scaled < x ∧ x < finish.scaled

/-- A region and a span have a point in common that is inside of both. -/
def Overlaps (r : FreeRegion) (s : Binary64 × Binary64) : Prop :=
  ∃ x : ℚ, Between x r.start r.finish ∧ Between x s.1 s.2

theorem overlaps_of_lt {r : FreeRegion} {s : Binary64 × Binary64}
    (hr : r.start.scaled < r.finish.scaled) (hs : s.1.scaled ≤ r.start.scaled)
    (hpast : r.start.scaled < s.2.scaled) : Overlaps r s := by
  have hroom : (r.start.scaled : ℚ) < min (r.finish.scaled : ℚ) s.2.scaled :=
    lt_min (by exact_mod_cast hr) (by exact_mod_cast hpast)
  obtain ⟨x, hlow, hhigh⟩ := exists_between hroom
  have hstart : (s.1.scaled : ℚ) ≤ r.start.scaled := by exact_mod_cast hs
  exact ⟨x, ⟨hlow, hhigh.trans_le (min_le_left _ _)⟩, hstart.trans_lt hlow,
    hhigh.trans_le (min_le_right _ _)⟩

/-- An extended partition, and a logical partition in it. -/
def extendedDisk : Disk :=
  { path := "/dev/sda", size := "1000MiB", model := "", transport := "", label := "msdos"
    maxPartitions := none, geometry := none, media := none, mountPoints := []
    partitions :=
      [{ Partition.ofNumber 2 with
          start := some "1MiB", finish := some "900MiB", partType := "extended" },
        { Partition.ofNumber 5 with
          start := some "2MiB", finish := some "100MiB", partType := "logical" }] }

/-- Its spans, in order of their starts. -/
theorem mapM_span?_extendedDisk : extendedDisk.partitions.mapM span? =
    .ok [some (.ofNat 1, .ofNat 900), some (.ofNat 2, .ofNat 100)] := by
  decide +kernel

theorem hasSpan_extendedDisk_iff {s : Binary64 × Binary64} :
    extendedDisk.HasSpan s ↔ s = (.ofNat 1, .ofNat 900) ∨ s = (.ofNat 2, .ofNat 100) := by
  rw [HasSpan, ← mem_of_mapM_eq_ok mapM_span?_extendedDisk]
  simp

/-- The only region of that disk reaches from the end of the logical partition to the end of the
disk. -/
theorem freeRegions_extendedDisk :
    extendedDisk.freeRegions = .ok [⟨.ofNat 100, .ofNat 1000⟩] := by
  have hsize : parseMib extendedDisk.size = .ok (.ofNat 1000) := by decide +kernel
  rw [freeRegions_of_spans hsize mapM_span?_extendedDisk,
    List.mergeSort_of_pairwise (by decide +kernel)]
  decide +kernel

/-- **A region may lie within a partition**: what follows the logical partition is taken for
unallocated, although the extended partition covers most of it. -/
theorem region_within_extended :
    ¬ ∀ (d : Disk) (size : Binary64) (rs : List FreeRegion), parseMib d.size = .ok size →
      d.freeRegions = .ok rs →
        (∀ s, d.HasSpan s → s.1.scaled ≤ s.2.scaled ∧ s.2.scaled ≤ size.scaled) →
          ∀ r ∈ rs, ∀ s, d.HasSpan s → ¬ Overlaps r s := by
  intro h
  have hsize : parseMib extendedDisk.size = .ok (.ofNat 1000) := by decide +kernel
  refine h extendedDisk _ _ hsize freeRegions_extendedDisk ?_ _ List.mem_cons_self
    (.ofNat 1, .ofNat 900) (hasSpan_extendedDisk_iff.mpr (.inl rfl)) ?_
  · intro s hs
    rcases hasSpan_extendedDisk_iff.mp hs with rfl | rfl <;> decide +kernel
  · exact overlaps_of_lt (by decide +kernel) (by decide +kernel) (by decide +kernel)

/-- Where the regions of a disk overlap the spans of its partitions. -/
structure RegionOverlap (d : Disk) (rs : List FreeRegion) : Prop where
  /-- A region overlaps a span exactly if it begins at the end of a span that is nested in it and
  ends before it does. -/
  overlaps_iff : ∀ r ∈ rs, ∀ s, d.HasSpan s → (Overlaps r s ↔
    ∃ inner, d.HasSpan inner ∧ inner.2 = r.start ∧ s.1.scaled ≤ inner.1.scaled ∧
      inner.2.scaled < s.2.scaled)
  /-- So no region overlaps a span if later starts never go with earlier ends. -/
  clear : (∀ s t, d.HasSpan s → d.HasSpan t → s.1.scaled ≤ t.1.scaled →
    s.2.scaled ≤ t.2.scaled) → ∀ r ∈ rs, ∀ s, d.HasSpan s → ¬ Overlaps r s

/-- A span that starts before a region ends starts no later than the span before the region. -/
theorem starts_before_of_lt_regionEnd {size : Binary64} {before after : List (Binary64 × Binary64)}
    {a s : Binary64 × Binary64}
    (hsorted : (before ++ a :: after).Pairwise fun a b => a.1.scaled ≤ b.1.scaled)
    (hs : s ∈ before ++ a :: after) (hreach : s.1.scaled < (regionEnd size after).scaled) :
    s.1.scaled ≤ a.1.scaled := by
  obtain ⟨-, hrest, hbefore⟩ := List.pairwise_append.mp hsorted
  rcases List.mem_append.mp hs with hs | hs
  · exact hbefore s hs a List.mem_cons_self
  · rcases List.mem_cons.mp hs with rfl | hs
    · exact Int.le_refl _
    · -- All spans after the region start no earlier than where it ends.
      have hafter := (List.pairwise_cons.mp hrest).2
      cases after with
      | nil => exact absurd hs List.not_mem_nil
      | cons b after =>
        refine absurd hreach (Int.not_lt.mpr ?_)
        rcases List.mem_cons.mp hs with rfl | hs
        · exact Int.le_refl _
        · exact (List.pairwise_cons.mp hafter).1 s hs

/-- **A region overlaps the spans that the one before it is nested in**, and no others. -/
theorem regionOverlap_of_freeRegions {d : Disk} {rs : List FreeRegion}
    (hregions : d.freeRegions = .ok rs)
    (hspans : ∀ s, d.HasSpan s → s.1.scaled ≤ s.2.scaled) : RegionOverlap d rs := by
  obtain ⟨size, spans, -, hmem, hsorted, rfl⟩ := exists_spans_of_freeRegions hregions
  have overlaps_iff : ∀ r ∈ regionsBeside size spans, ∀ s, d.HasSpan s → (Overlaps r s ↔
      ∃ inner, d.HasSpan inner ∧ inner.2 = r.start ∧ s.1.scaled ≤ inner.1.scaled ∧
        inner.2.scaled < s.2.scaled) := by
    intro r hr s hs
    have hne : spans ≠ [] := List.ne_nil_of_mem ((hmem s).mpr hs)
    obtain ⟨before, a, after, hsplit, hbefore⟩ := (mem_regionsBeside_iff hne).mp hr
    obtain ⟨rfl, hlt⟩ := mem_regionBefore_iff.mp hbefore
    have hroom : a.2.scaled < (regionEnd size after).scaled := by simpa [Binary64.lt] using hlt
    constructor
    · rintro ⟨x, ⟨hlow, hhigh⟩, hstart, hend⟩
      refine ⟨a, (hmem a).mp (by simp [hsplit]), rfl, ?_, by exact_mod_cast hlow.trans hend⟩
      have hreach : s.1.scaled < (regionEnd size after).scaled := by
        exact_mod_cast hstart.trans hhigh
      exact starts_before_of_lt_regionEnd (hsplit ▸ hsorted) (hsplit ▸ (hmem s).mpr hs) hreach
    · rintro ⟨inner, hinner, hstart, hnested, hpast⟩
      rw [hstart] at hpast
      exact overlaps_of_lt hroom (hnested.trans (hstart ▸ hspans inner hinner)) hpast
  refine ⟨overlaps_iff, fun hnested r hr s hs hoverlap => ?_⟩
  obtain ⟨inner, hinner, -, hstart, hend⟩ := (overlaps_iff r hr s hs).mp hoverlap
  exact absurd (hnested s inner hs hinner hstart) (Int.not_le.mpr hend)

/-- The region after the logical partition overlaps the extended one, in which that is nested. -/
theorem regionOverlap_of_freeRegions_extended :
    extendedDisk.freeRegions = .ok [⟨.ofNat 100, .ofNat 1000⟩] ∧
      (∀ s, extendedDisk.HasSpan s → s.1.scaled ≤ s.2.scaled) ∧
        extendedDisk.HasSpan (.ofNat 1, .ofNat 900) ∧
          Overlaps ⟨.ofNat 100, .ofNat 1000⟩ (.ofNat 1, .ofNat 900) := by
  have hspans : ∀ s, extendedDisk.HasSpan s → s.1.scaled ≤ s.2.scaled := by
    intro s hs
    rcases hasSpan_extendedDisk_iff.mp hs with rfl | rfl <;> decide +kernel
  have houter : extendedDisk.HasSpan (.ofNat 1, .ofNat 900) :=
    hasSpan_extendedDisk_iff.mpr (.inl rfl)
  have hinner : extendedDisk.HasSpan (.ofNat 2, .ofNat 100) :=
    hasSpan_extendedDisk_iff.mpr (.inr rfl)
  have hoverlap := regionOverlap_of_freeRegions freeRegions_extendedDisk hspans
  refine ⟨freeRegions_extendedDisk, hspans, houter, ?_⟩
  exact (hoverlap.overlaps_iff _ List.mem_cons_self _ houter).mpr
    ⟨_, hinner, rfl, by decide +kernel, by decide +kernel⟩

end Disk

end StorageTopology

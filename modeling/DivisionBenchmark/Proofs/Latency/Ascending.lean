import DivisionBenchmark.Proofs.Latency.Samples
import Mathlib.Data.List.Sort

/-!
# Samples in ascending order

The buckets of a histogram ascend, each with a count. Written out, every bucket as often as it
counts (`DivisionBenchmark.Tally.spread`), they are the buckets of the samples in ascending order of
the samples (`DivisionBenchmark.Histogram.Holds.spread_eq`), because the buckets ascend with their
latencies. So to add up counts until a rank is reached is to look up a place in that list
(`DivisionBenchmark.Histogram.bucketAt_eq`), and the bucket found is that of the sample of this rank
(`DivisionBenchmark.Histogram.Holds.bucketAt_eq`).
-/

namespace DivisionBenchmark

/-! ### Entries written out -/

namespace Tally

/-- **Entries written out**: each number as often as it is counted. -/
def spread (entries : List (Nat × Nat)) : List Nat :=
  entries.flatMap fun entry => List.replicate entry.2 entry.1

theorem spread_cons (entry : Nat × Nat) (entries : List (Nat × Nat)) :
    spread (entry :: entries) = List.replicate entry.2 entry.1 ++ spread entries :=
  List.flatMap_cons

theorem exists_of_mem_spread {number : Nat} {entries : List (Nat × Nat)}
    (h : number ∈ spread entries) : ∃ entry ∈ entries, entry.1 = number := by
  obtain ⟨entry, hentry, hmem⟩ := List.mem_flatMap.mp h
  exact ⟨entry, hentry, (List.eq_of_mem_replicate hmem).symm⟩

/-- Ascending entries are written out in ascending order. -/
theorem pairwise_spread {entries : List (Nat × Nat)}
    (h : entries.Pairwise fun a b => a.1 < b.1) : (spread entries).Pairwise (· ≤ ·) := by
  induction entries with
  | nil => exact List.Pairwise.nil
  | cons entry entries ih =>
    obtain ⟨hfirst, hrest⟩ := List.pairwise_cons.mp h
    rw [spread_cons, List.pairwise_append]
    refine ⟨List.pairwise_replicate.mpr (Or.inr (Nat.le_refl _)), ih hrest, fun a ha b hb => ?_⟩
    obtain ⟨later, hlater, rfl⟩ := exists_of_mem_spread hb
    rw [List.eq_of_mem_replicate ha]
    exact Nat.le_of_lt (hfirst later hlater)

/-- A number is written as often as it is counted. -/
theorem count_spread {entries : List (Nat × Nat)} (h : entries.Pairwise fun a b => a.1 < b.1)
    (number : Nat) : (spread entries).count number = countIn number entries := by
  induction entries with
  | nil => rfl
  | cons entry entries ih =>
    obtain ⟨k, n⟩ := entry
    obtain ⟨hfirst, hrest⟩ := List.pairwise_cons.mp h
    rw [spread_cons, List.count_append, List.count_replicate, ih hrest, countIn]
    by_cases hk : number = k
    · subst hk
      rw [if_pos (beq_self_eq_true number), if_pos rfl, countIn_eq_zero hfirst, Nat.add_zero]
    · rw [if_neg fun hbeq => hk (beq_iff_eq.mp hbeq).symm, if_neg hk, Nat.zero_add]

end Tally

namespace Histogram

/-- **To count up to a rank is to look up a place** in the entries written out. -/
theorem bucketAt_eq {rank before : Nat} (h : before < rank) (entries : List (Nat × Nat)) :
    bucketAt rank before entries = (Tally.spread entries)[rank - before - 1]? := by
  induction entries generalizing before with
  | nil => rfl
  | cons entry entries ih =>
    obtain ⟨bucket, count⟩ := entry
    rw [bucketAt, Tally.spread_cons]
    by_cases hreached : rank ≤ before + count
    · have hplace : rank - before - 1 < count := by omega
      rw [if_pos hreached, List.getElem?_append_left (by rwa [List.length_replicate]),
        List.getElem?_replicate, if_pos hplace]
    · have hplace : rank - before - 1 - count = rank - (before + count) - 1 := by omega
      rw [if_neg hreached, ih (by omega),
        List.getElem?_append_right (by rw [List.length_replicate]; omega),
        List.length_replicate, hplace]

/-- No more are counted to the end of a block than there are. -/
theorem sizeThrough_le (h : Histogram) (block : Nat) : h.sizeThrough block ≤ h.buckets.sum := by
  have hle (entries : List (Nat × Nat)) :
      entries.foldr (fun entry sum =>
        if Bucket.block entry.1 ≤ block then entry.2 + sum else sum) 0 ≤ Tally.sumOf entries := by
    induction entries with
    | nil => exact Nat.le_refl 0
    | cons entry entries ih =>
      rw [List.foldr_cons, Tally.sumOf_cons]
      split <;> omega
  exact hle h.buckets.entries

/-! ### Samples in order -/

/-- **The latencies that are kept of samples**, in ascending order. -/
def ascending (samples : List Nat) : List Nat := (samples.map Bucket.clamp).mergeSort

theorem pairwise_ascending (samples : List Nat) : (ascending samples).Pairwise (· ≤ ·) :=
  List.pairwise_mergeSort' (· ≤ ·) (samples.map Bucket.clamp)

theorem perm_ascending (samples : List Nat) :
    (ascending samples).Perm (samples.map Bucket.clamp) :=
  List.mergeSort_perm _ _

@[simp] theorem length_ascending (samples : List Nat) :
    (ascending samples).length = samples.length := by
  rw [(perm_ascending samples).length_eq, List.length_map]

/-- A later place holds no lower latency. -/
theorem ascending_le {samples : List Nat} {i j s s' : Nat} (hij : i ≤ j)
    (hs : (ascending samples)[i]? = some s) (hs' : (ascending samples)[j]? = some s') :
    s ≤ s' := by
  obtain ⟨hi, rfl⟩ := List.getElem?_eq_some_iff.mp hs
  obtain ⟨hj, rfl⟩ := List.getElem?_eq_some_iff.mp hs'
  rcases Nat.lt_or_eq_of_le hij with hlt | rfl
  · exact List.pairwise_iff_getElem.mp (pairwise_ascending samples) i j hi hj hlt
  · exact Nat.le_refl _

/-- Whatever stands at a place is kept of a sample. -/
theorem exists_of_ascending {samples : List Nat} {i s : Nat}
    (hs : (ascending samples)[i]? = some s) : ∃ nanos ∈ samples, Bucket.clamp nanos = s :=
  List.mem_map.mp ((perm_ascending samples).mem_iff.mp (List.mem_of_getElem? hs))

/-- The first place holds the least latency. -/
theorem ascending_zero (samples : List Nat) :
    (ascending samples)[0]? = (samples.map Bucket.clamp).min? := by
  cases hfirst : (ascending samples)[0]? with
  | none =>
    have hnil : samples = [] := List.length_eq_zero_iff.mp <| by
      rw [← length_ascending]
      exact Nat.eq_zero_of_le_zero (List.getElem?_eq_none_iff.mp hfirst)
    rw [hnil]
    rfl
  | some s =>
    refine (List.min?_eq_some_iff.mpr ⟨?_, fun s' hs' => ?_⟩).symm
    · exact (perm_ascending samples).mem_iff.mp (List.mem_of_getElem? hfirst)
    · obtain ⟨j, hj⟩ := List.mem_iff_getElem?.mp ((perm_ascending samples).mem_iff.mpr hs')
      exact ascending_le (Nat.zero_le j) hfirst hj

/-! ### The sample of a rank -/

variable {samples : List Nat} {h : Histogram}

/-- **The buckets of a histogram, written out, are those of its samples in ascending order.** -/
theorem Holds.spread_eq (hsamples : h.Holds samples) (hlt : samples.length < Count.bound) :
    Tally.spread h.buckets.entries = (ascending samples).map Bucket.lowest := by
  have hperm : ((ascending samples).map Bucket.lowest).Perm (samples.map Bucket.holding) := by
    have hmap := (perm_ascending samples).map Bucket.lowest
    rwa [List.map_map] at hmap
  have hpairwise : ((ascending samples).map Bucket.lowest).Pairwise (· ≤ ·) :=
    List.pairwise_map.mpr ((pairwise_ascending samples).imp Bucket.lowest_le_lowest)
  refine List.Perm.eq_of_pairwise (fun _ _ _ _ => Nat.le_antisymm)
    (Tally.pairwise_spread h.buckets.ascending) hpairwise ?_
  refine List.perm_iff_count.mpr fun bucket => ?_
  have hle : (samples.map Bucket.holding).count bucket ≤ samples.length := by
    simpa using List.count_le_length (a := bucket) (l := samples.map Bucket.holding)
  have hcount : Tally.countIn bucket h.buckets.entries = _ := hsamples bucket
  rw [Tally.count_spread h.buckets.ascending, hcount, hperm.count_eq]
  omega

/-- **The bucket at a rank is that of the sample of this rank.** -/
theorem Holds.bucketAt_eq (hsamples : h.Holds samples) (hlt : samples.length < Count.bound)
    {rank : Nat} (hrank : 0 < rank) :
    bucketAt rank 0 h.buckets.entries = (ascending samples)[rank - 1]?.map Bucket.lowest := by
  rw [Histogram.bucketAt_eq hrank, hsamples.spread_eq hlt, List.getElem?_map, Nat.sub_zero]

end Histogram

end DivisionBenchmark

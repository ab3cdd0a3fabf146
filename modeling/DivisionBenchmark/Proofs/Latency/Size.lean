import DivisionBenchmark.Latency.Histogram

/-!
# How many latencies a histogram holds

The size of a histogram stops at the greatest 64-bit value, and so does the count of each of its
buckets. Below that value nothing is lost: recording adds one, merging adds the two sizes.

The count without a limit is `DivisionBenchmark.Tally.sum`. As long as it has 64 bits, no bucket has
reached the limit either, and the size is this count (`DivisionBenchmark.Tally.total_eq_sum`).
-/

namespace DivisionBenchmark

namespace Tally

/-- The counts of entries, added up. -/
def sumOf (entries : List (Nat × Nat)) : Nat := entries.foldr (fun entry sum => entry.2 + sum) 0

/-- **How many numbers were met**, without a limit. -/
def sum (t : Tally) : Nat := sumOf t.entries

@[simp] theorem sumOf_cons (entry : Nat × Nat) (entries : List (Nat × Nat)) :
    sumOf (entry :: entries) = entry.2 + sumOf entries := rfl

/-- A total that has 64 bits is not cut off. -/
theorem total_eq_sum {t : Tally} (h : t.sum < Count.bound) : t.total = t.sum :=
  Nat.min_eq_left (Nat.le_sub_one_of_lt h)

theorem sumOf_insert {number n : Nat} {entries : List (Nat × Nat)}
    (h : sumOf entries + n < Count.bound) :
    sumOf (insert number n entries) = sumOf entries + n := by
  induction entries with
  | nil =>
    have hn : Count.saturatingAdd 0 n = 0 + n := Count.saturatingAdd_eq_add h
    rw [insert, sumOf_cons, hn]
    rfl
  | cons head rest ih =>
    obtain ⟨k, m⟩ := head
    rw [sumOf_cons] at h
    rw [insert]
    split
    · have hn : Count.saturatingAdd 0 n = 0 + n := Count.saturatingAdd_eq_add (by omega)
      rw [sumOf_cons, hn]
      omega
    · split
      · have hm : Count.saturatingAdd m n = m + n := Count.saturatingAdd_eq_add (by omega)
        rw [sumOf_cons, sumOf_cons, hm]
        omega
      · rw [sumOf_cons, sumOf_cons, ih (by omega)]
        omega

/-- Meeting a number more often adds to what was met. -/
theorem sum_add {t : Tally} {number n : Nat} (h : t.sum + n < Count.bound) :
    (t.add number n).sum = t.sum + n := by
  rw [add]
  split
  · exact sumOf_insert h
  · omega

theorem sum_foldl_add {entries : List (Nat × Nat)} {t : Tally}
    (h : t.sum + sumOf entries < Count.bound) :
    (entries.foldl (fun t (number, n) => t.add number n) t).sum = t.sum + sumOf entries := by
  induction entries generalizing t with
  | nil => rfl
  | cons head rest ih =>
    obtain ⟨k, m⟩ := head
    rw [sumOf_cons] at h
    have hadd : (t.add k m).sum = t.sum + m := sum_add (by omega)
    rw [List.foldl_cons, ih (by rw [hadd]; omega), hadd, sumOf_cons]
    omega

/-- Tallies put together have met what either has met. -/
theorem sum_merge {t other : Tally} (h : t.sum + other.sum < Count.bound) :
    (t.merge other).sum = t.sum + other.sum :=
  sum_foldl_add h

end Tally

namespace Histogram

/-- A size that can still grow is the number of latencies. -/
theorem size_eq_sum {h : Histogram} (hlt : h.size + 1 < Count.bound) : h.size = h.buckets.sum := by
  have hmin : h.size = Min.min h.buckets.sum (Count.bound - 1) := rfl
  omega

/-- Each latency that is recorded counts once. -/
theorem sum_recordNanos {h : Histogram} {nanos : Nat} (hlt : h.buckets.sum + 1 < Count.bound) :
    (h.recordNanos nanos).buckets.sum = h.buckets.sum + 1 :=
  Tally.sum_add hlt

/-- The latencies of two histograms are counted together. -/
theorem sum_merge {h other : Histogram}
    (hlt : h.buckets.sum + other.buckets.sum < Count.bound) :
    (h.merge other).buckets.sum = h.buckets.sum + other.buckets.sum :=
  Tally.sum_merge hlt

end Histogram

end DivisionBenchmark

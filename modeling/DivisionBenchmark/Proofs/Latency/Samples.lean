import DivisionBenchmark.Proofs.Latency.Size

/-!
# What a histogram keeps of its samples

A histogram is given latencies one at a time, or another histogram with all of its own, and keeps
nothing but the counts of its buckets. That is the whole of what it knows: a histogram *holds*
samples (`DivisionBenchmark.Histogram.Holds`) if each of its buckets counts those that fall into it,
and samples determine the histogram that holds them (`DivisionBenchmark.Histogram.Holds.unique`).
So it does not matter which of them were recorded and which came by merging.

What it reports is read off the samples:

* its size is their number, however it came about
  (`DivisionBenchmark.Histogram.Origin.size_histogram`);
* its extremes are the bounds of the buckets of the least and of the greatest of them
  (`DivisionBenchmark.Histogram.Holds.min_eq`, `DivisionBenchmark.Histogram.Holds.max_eq`).

Main statement: `DivisionBenchmark.Histogram.Origin.keeps_samples`, no sample is lost, and three
digits of the extremes are kept.
-/

namespace DivisionBenchmark

/-- The bucket a latency is recorded in, by its lowest latency. -/
def Bucket.holding (nanos : Nat) : Nat := lowest (clamp nanos)

/-! ### The ends of a tally -/

namespace Tally

variable {t : Tally} {number : Nat} {e : Nat × Nat}

/-- Every number that was met is at least the first entry's. -/
theorem le_of_head? (h : t.entries.head? = some e) (hmet : 0 < t.count number) :
    e.1 ≤ number := by
  obtain ⟨rest, hentries⟩ := List.head?_eq_some_iff.mp h
  have hmem : (number, t.count number) ∈ e :: rest := hentries ▸ mem_entries_iff.mpr ⟨hmet, rfl⟩
  have hascending : (e :: rest).Pairwise fun a b => a.1 < b.1 := hentries ▸ t.ascending
  rcases List.mem_cons.mp hmem with rfl | hrest
  · exact Nat.le_refl _
  · exact Nat.le_of_lt ((List.pairwise_cons.mp hascending).1 _ hrest)

/-- Every number that was met is at most the last entry's. -/
theorem le_of_getLast? (h : t.entries.getLast? = some e) (hmet : 0 < t.count number) :
    number ≤ e.1 := by
  obtain ⟨init, hentries⟩ := List.getLast?_eq_some_iff.mp h
  have hmem : (number, t.count number) ∈ init ++ [e] :=
    hentries ▸ mem_entries_iff.mpr ⟨hmet, rfl⟩
  have hascending : (init ++ [e]).Pairwise fun a b => a.1 < b.1 := hentries ▸ t.ascending
  rcases List.mem_append.mp hmem with hinit | hlast
  · exact Nat.le_of_lt
      ((List.pairwise_append.mp hascending).2.2 _ hinit _ (List.mem_singleton_self e))
  · exact Nat.le_of_eq (congrArg Prod.fst (List.mem_singleton.mp hlast))

/-- An entry is a number that was met. -/
theorem count_pos_of_mem (h : e ∈ t.entries) : 0 < t.count e.1 := by
  obtain ⟨hpos, hcount⟩ := mem_entries_iff.mp h
  rw [hcount]
  exact hpos

/-- The total is zero only where there is no entry. -/
theorem total_eq_zero_iff : t.total = 0 ↔ t.entries = [] := by
  have hmin : t.total = min t.sum (Count.bound - 1) := rfl
  rw [hmin, sum]
  cases hentries : t.entries with
  | nil => simp [sumOf]
  | cons e rest =>
    have hpos : 0 < e.2 := t.positive e (hentries ▸ List.mem_cons_self)
    have hbound : 0 < Count.bound - 1 := by decide
    rw [sumOf_cons]
    simp only [reduceCtorEq, iff_false]
    omega

end Tally

namespace Histogram

/-! ### Samples that are held -/

/-- **The histogram holds samples**: each of its buckets counts those recorded in it, as far as a
count goes. -/
def Holds (samples : List Nat) (h : Histogram) : Prop :=
  ∀ bucket, h.buckets.count bucket =
    Min.min ((samples.map Bucket.holding).count bucket) (Count.bound - 1)

section holding

variable {samples samples' : List Nat} {h other : Histogram}

theorem holds_empty : empty.Holds [] := fun _ => rfl

/-- A latency that is recorded is a sample more. -/
theorem Holds.recordNanos (hsamples : h.Holds samples) (nanos : Nat) :
    (h.recordNanos nanos).Holds (samples ++ [nanos]) := by
  intro bucket
  have hcount : (h.recordNanos nanos).buckets.count bucket =
      if bucket = Bucket.holding nanos then Count.saturatingAdd (h.buckets.count bucket) 1
      else h.buckets.count bucket := count_recordNanos h nanos bucket
  rw [hcount, hsamples bucket, List.map_append, List.count_append, List.map_singleton,
    List.count_singleton]
  by_cases hbucket : bucket = Bucket.holding nanos
  · rw [if_pos hbucket, if_pos (beq_iff_eq.mpr hbucket.symm), Count.saturatingAdd]
    omega
  · rw [if_neg hbucket, if_neg fun h => hbucket (beq_iff_eq.mp h).symm, Nat.add_zero]

/-- **The samples of two histograms are held together.** The counts that are cut off do no harm:
either side being cut off, so is the sum. -/
theorem Holds.merge (hsamples : h.Holds samples) (hother : other.Holds samples') :
    (h.merge other).Holds (samples ++ samples') := by
  intro bucket
  have hcount : (h.merge other).buckets.count bucket =
      if 0 < other.buckets.count bucket then
        Count.saturatingAdd (h.buckets.count bucket) (other.buckets.count bucket)
      else h.buckets.count bucket := Tally.count_merge _ _ _
  rw [hcount, hsamples bucket, hother bucket, List.map_append, List.count_append]
  split
  · rw [Count.saturatingAdd]
    omega
  · have : (Count.bound - 1 : Nat) ≠ 0 := by decide
    omega

/-- **Samples determine the histogram that holds them.** -/
theorem Holds.unique (hsamples : h.Holds samples) (hother : other.Holds samples) : h = other :=
  Histogram.ext (Tally.ext_count fun bucket => (hsamples bucket).trans (hother bucket).symm)

/-- The histogram that samples are recorded in, one after the other. -/
def ofSamples (samples : List Nat) : Histogram := samples.foldl recordNanos empty

/-- A run of recordings holds what was recorded, and what was held before. -/
theorem Holds.foldl_recordNanos (hsamples : h.Holds samples) (more : List Nat) :
    (more.foldl Histogram.recordNanos h).Holds (samples ++ more) := by
  induction more generalizing h samples with
  | nil => exact (List.append_nil samples).symm ▸ hsamples
  | cons nanos more ih =>
    rw [List.foldl_cons, List.append_cons]
    exact ih (hsamples.recordNanos nanos)

theorem holds_ofSamples (samples : List Nat) : (ofSamples samples).Holds samples :=
  holds_empty.foldl_recordNanos samples

/-- **Merging is recording in one place.** -/
theorem merge_ofSamples (samples samples' : List Nat) :
    (ofSamples samples).merge (ofSamples samples') = ofSamples (samples ++ samples') :=
  ((holds_ofSamples samples).merge (holds_ofSamples samples')).unique (holds_ofSamples _)

/-! ### Extremes -/

/-- The bucket of each sample is met, and no other. -/
theorem Holds.count_pos_iff (hsamples : h.Holds samples) {bucket : Nat} :
    0 < h.buckets.count bucket ↔ ∃ nanos ∈ samples, Bucket.holding nanos = bucket := by
  have hbound : 0 < Count.bound - 1 := by decide
  rw [hsamples bucket, ← List.mem_map, ← List.count_pos_iff]
  omega

/-- A histogram is empty exactly where no sample was recorded. -/
theorem Holds.isEmpty_iff (hsamples : h.Holds samples) : h.isEmpty = true ↔ samples = [] := by
  rw [isEmpty, beq_iff_eq, size, Tally.total_eq_zero_iff]
  constructor
  · intro hentries
    refine List.eq_nil_iff_forall_not_mem.mpr fun nanos hnanos => ?_
    have hmet := hsamples.count_pos_iff.mpr ⟨nanos, hnanos, rfl⟩
    rw [Tally.count, hentries] at hmet
    exact absurd hmet (Nat.lt_irrefl 0)
  · rintro rfl
    refine List.eq_nil_iff_forall_not_mem.mpr fun e he => ?_
    obtain ⟨_, hnil, _⟩ := hsamples.count_pos_iff.mp (Tally.count_pos_of_mem he)
    exact absurd hnil List.not_mem_nil

/-- The first bucket is that of the least sample. -/
theorem Holds.lowestNanos_eq (hsamples : h.Holds samples) {lo : Nat}
    (hlo : (samples.map Bucket.clamp).min? = some lo) : h.lowestNanos = Bucket.lowest lo := by
  obtain ⟨hmem, hleast⟩ := List.min?_eq_some_iff.mp hlo
  obtain ⟨nanos, hnanos, rfl⟩ := List.mem_map.mp hmem
  have hmet := hsamples.count_pos_iff.mpr ⟨nanos, hnanos, rfl⟩
  cases hhead : h.buckets.entries.head? with
  | none =>
    rw [Tally.count, List.head?_eq_none_iff.mp hhead] at hmet
    exact absurd hmet (Nat.lt_irrefl 0)
  | some e =>
    obtain ⟨nanos', hnanos', hbucket⟩ :=
      hsamples.count_pos_iff.mp (Tally.count_pos_of_mem (List.mem_of_head? hhead))
    have hle : e.1 ≤ Bucket.holding nanos := Tally.le_of_head? hhead hmet
    have hge : Bucket.holding nanos ≤ e.1 := hbucket ▸
      Bucket.lowest_le_lowest (hleast _ (List.mem_map_of_mem hnanos'))
    rw [lowestNanos, hhead]
    show Bucket.lowest e.1 = Bucket.holding nanos
    rw [Nat.le_antisymm hle hge]
    exact Bucket.lowest_lowest _

/-- The last bucket is that of the greatest sample. -/
theorem Holds.highestNanos_eq (hsamples : h.Holds samples) {hi : Nat}
    (hhi : (samples.map Bucket.clamp).max? = some hi) : h.highestNanos = Bucket.highest hi := by
  obtain ⟨hmem, hgreatest⟩ := List.max?_eq_some_iff.mp hhi
  obtain ⟨nanos, hnanos, rfl⟩ := List.mem_map.mp hmem
  have hmet := hsamples.count_pos_iff.mpr ⟨nanos, hnanos, rfl⟩
  cases hlast : h.buckets.entries.getLast? with
  | none =>
    rw [Tally.count, List.getLast?_eq_none_iff.mp hlast] at hmet
    exact absurd hmet (Nat.lt_irrefl 0)
  | some e =>
    obtain ⟨nanos', hnanos', hbucket⟩ :=
      hsamples.count_pos_iff.mp (Tally.count_pos_of_mem (List.mem_of_getLast? hlast))
    have hge : Bucket.holding nanos ≤ e.1 := Tally.le_of_getLast? hlast hmet
    have hle : e.1 ≤ Bucket.holding nanos := hbucket ▸
      Bucket.lowest_le_lowest (hgreatest _ (List.mem_map_of_mem hnanos'))
    rw [highestNanos, hlast]
    show Bucket.highest e.1 = Bucket.highest (Bucket.clamp nanos)
    rw [Nat.le_antisymm hle hge]
    exact Bucket.highest_lowest _

/-- **The shortest latency is reported by the lower bound of its bucket.** -/
theorem Holds.min_eq (hsamples : h.Holds samples) :
    h.min = (samples.map Bucket.clamp).min?.map fun lo => ofLatency (Bucket.lowest lo) := by
  rw [min, ifAny]
  cases hlo : (samples.map Bucket.clamp).min? with
  | none =>
    have hnil : samples = [] := List.map_eq_nil_iff.mp (List.min?_eq_none_iff.mp hlo)
    rw [if_pos (hsamples.isEmpty_iff.mpr hnil)]
    rfl
  | some lo =>
    have hne : ¬h.isEmpty = true := by
      rw [hsamples.isEmpty_iff]
      rintro rfl
      exact absurd hlo (by simp)
    rw [if_neg hne, hsamples.lowestNanos_eq hlo]
    rfl

/-- **The longest latency is reported by the upper bound of its bucket.** -/
theorem Holds.max_eq (hsamples : h.Holds samples) :
    h.max = (samples.map Bucket.clamp).max?.map fun hi => ofLatency (Bucket.highest hi) := by
  rw [max, ifAny]
  cases hhi : (samples.map Bucket.clamp).max? with
  | none =>
    have hnil : samples = [] := List.map_eq_nil_iff.mp (List.max?_eq_none_iff.mp hhi)
    rw [if_pos (hsamples.isEmpty_iff.mpr hnil)]
    rfl
  | some hi =>
    have hne : ¬h.isEmpty = true := by
      rw [hsamples.isEmpty_iff]
      rintro rfl
      exact absurd hhi (by simp)
    rw [if_neg hne, hsamples.highestNanos_eq hhi]
    rfl

end holding

/-! ### However a histogram came about -/

/-- **How a histogram came about**: from empty ones, by recording and by merging. -/
inductive Origin where
  /-- Nothing was recorded. -/
  | empty
  /-- Then a latency of so many nanoseconds was recorded. -/
  | recordNanos (before : Origin) (nanos : UInt64)
  /-- Then a latency was recorded. -/
  | record (before : Origin) (latency : Duration)
  /-- Then another histogram was merged. -/
  | merge (before other : Origin)

namespace Origin

/-- The histogram that came about so. -/
def histogram : Origin → Histogram
  | .empty => Histogram.empty
  | .recordNanos before nanos => before.histogram.recordNanos nanos.toNat
  | .record before latency => before.histogram.record latency
  | .merge before other => before.histogram.merge other.histogram

/-- The nanoseconds of what was recorded, into the histogram or into one it was merged with. -/
def samples : Origin → List Nat
  | .empty => []
  | .recordNanos before nanos => before.samples ++ [nanos.toNat]
  | .record before latency => before.samples ++ [latency.nanos]
  | .merge before other => before.samples ++ other.samples

/-- **A histogram holds what was recorded**, however it came about. -/
theorem holds_samples (origin : Origin) : origin.histogram.Holds origin.samples := by
  induction origin with
  | empty => exact holds_empty
  | recordNanos before nanos ih => exact ih.recordNanos nanos.toNat
  | record before latency ih => exact ih.recordNanos latency.nanos
  | merge before other ih ihother => exact ih.merge ihother

theorem sum_histogram {origin : Origin} (hlt : origin.samples.length < Count.bound) :
    origin.histogram.buckets.sum = origin.samples.length := by
  have hrecorded {h : Histogram} {samples : List Nat} (nanos : Nat)
      (hsum : samples.length < Count.bound → h.buckets.sum = samples.length)
      (hlt : (samples ++ [nanos]).length < Count.bound) :
      (h.recordNanos nanos).buckets.sum = (samples ++ [nanos]).length := by
    rw [List.length_append, List.length_singleton] at hlt ⊢
    have hbefore := hsum (Nat.lt_of_succ_lt hlt)
    rw [← hbefore] at hlt ⊢
    exact Histogram.sum_recordNanos hlt
  induction origin with
  | empty => rfl
  | recordNanos before nanos ih => exact hrecorded nanos.toNat ih hlt
  | record before latency ih => exact hrecorded latency.nanos ih hlt
  | merge before other ih ihother =>
    rw [samples, List.length_append] at hlt ⊢
    have hbefore := ih (Nat.lt_of_le_of_lt (Nat.le_add_right _ _) hlt)
    have hother := ihother (Nat.lt_of_le_of_lt (Nat.le_add_left _ _) hlt)
    rw [← hbefore, ← hother] at hlt ⊢
    exact Histogram.sum_merge hlt

/-- **The size is the number of samples**, as long as that is a count. -/
theorem size_histogram {origin : Origin} (hlt : origin.samples.length < Count.bound) :
    origin.histogram.size = origin.samples.length := by
  have hsum := sum_histogram hlt
  rw [← hsum] at hlt ⊢
  exact Tally.total_eq_sum hlt

end Origin

/-- A bound of a bucket is a latency of 64 bits. -/
theorem nanos_ofLatency {nanos : Nat} (h : nanos < Count.bound) :
    (ofLatency nanos).nanos = nanos :=
  UInt64.toNat_ofNat_of_lt h

theorem highest_clamp_lt (nanos : Nat) :
    Bucket.highest (Bucket.clamp nanos) < Count.bound :=
  Nat.lt_of_le_of_lt (Bucket.highest_le_highest (Bucket.clamp_le_longest nanos)) (by decide)

/-- **A histogram loses no sample and keeps three digits.** However it came about, its size is the
number of its samples, and it has extremes exactly where there is a sample. The shortest latency is
at most the least sample and within a thousandth of it, the longest at least the greatest sample and
within a thousandth of it; both are exact below `2048`. Samples count by the latency that is kept
for them, which is between one nanosecond and one minute. -/
theorem Origin.keeps_samples (origin : Origin) (hlt : origin.samples.length < Count.bound) :
    origin.histogram.size = origin.samples.length ∧
      (origin.histogram.isEmpty = true ↔ origin.samples.length = 0) ∧
      (origin.histogram.min = none ↔ origin.samples.length = 0) ∧
      (origin.histogram.max = none ↔ origin.samples.length = 0) ∧
      ∀ lo hi, (origin.samples.map Bucket.clamp).min? = some lo →
        (origin.samples.map Bucket.clamp).max? = some hi →
          ∃ shortest longest, origin.histogram.min = some shortest ∧
            origin.histogram.max = some longest ∧
            shortest.nanos ≤ lo ∧ (lo - shortest.nanos) * 1000 ≤ lo ∧
            hi ≤ longest.nanos ∧ (longest.nanos - hi) * 1000 ≤ hi ∧
            (lo < 2048 → shortest.nanos = lo) ∧ (hi < 2048 → longest.nanos = hi) := by
  have hsamples := origin.holds_samples
  refine ⟨size_histogram hlt, ?_, ?_, ?_, ?_⟩
  · rw [hsamples.isEmpty_iff, List.length_eq_zero_iff]
  · rw [hsamples.min_eq, Option.map_eq_none_iff, List.min?_eq_none_iff, List.map_eq_nil_iff,
      List.length_eq_zero_iff]
  · rw [hsamples.max_eq, Option.map_eq_none_iff, List.max?_eq_none_iff, List.map_eq_nil_iff,
      List.length_eq_zero_iff]
  · intro lo hi hlo hhi
    obtain ⟨nanos, -, rfl⟩ := List.mem_map.mp (List.min?_eq_some_iff.mp hlo).1
    obtain ⟨nanos', -, rfl⟩ := List.mem_map.mp (List.max?_eq_some_iff.mp hhi).1
    have hlowest : (ofLatency (Bucket.lowest (Bucket.clamp nanos))).nanos =
        Bucket.lowest (Bucket.clamp nanos) := nanos_ofLatency <|
      calc Bucket.lowest (Bucket.clamp nanos) ≤ Bucket.clamp nanos := Bucket.lowest_le _
        _ ≤ Bucket.highest (Bucket.clamp nanos) := Bucket.le_highest _
        _ < Count.bound := highest_clamp_lt nanos
    have hhighest := nanos_ofLatency (highest_clamp_lt nanos')
    refine ⟨_, _, by rw [hsamples.min_eq, hlo]; rfl, by rw [hsamples.max_eq, hhi]; rfl, ?_⟩
    rw [hlowest, hhighest]
    exact ⟨Bucket.lowest_le _, Bucket.sub_lowest_mul_le _, Bucket.le_highest _,
      Bucket.highest_sub_mul_le _, Bucket.lowest_eq_self, Bucket.highest_eq_self⟩

/-- A latency of no time and one of an hour in one histogram, and two of a few microseconds in
another that is merged into it. The ends are those of the range, and the hour is kept as one minute,
up to the end of its bucket. -/
theorem Origin.keeps_samples_of_clamped :
    let origin := Origin.merge (.record (.recordNanos .empty 0) (.ofMillis 3600000))
      (.recordNanos (.recordNanos .empty 5000) 2047)
    origin.histogram.size = 4 ∧ origin.histogram.isEmpty = false ∧
      ∃ shortest longest, origin.histogram.min = some shortest ∧
        origin.histogram.max = some longest ∧ shortest.nanos = 1 ∧
        60000000000 ≤ longest.nanos ∧ longest.nanos ≤ 60060000000 := by
  intro origin
  obtain ⟨hsize, hempty, -, -, hextremes⟩ := Origin.keeps_samples origin (by decide)
  obtain ⟨shortest, longest, hmin, hmax, -, -, hle, hnear, hexact, -⟩ :=
    hextremes 1 60000000000 (by decide) (by decide)
  refine ⟨hsize, ?_, shortest, longest, hmin, hmax, hexact (by decide), hle, ?_⟩
  · rw [Bool.eq_false_iff, ne_eq, hempty]
    decide
  · rw [Nat.sub_mul, Nat.sub_le_iff_le_add] at hnear
    exact Nat.le_of_mul_le_mul_right (Nat.le_trans hnear (by decide)) (by decide : 0 < 1000)

end Histogram

end DivisionBenchmark

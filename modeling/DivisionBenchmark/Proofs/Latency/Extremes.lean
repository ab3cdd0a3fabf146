import DivisionBenchmark.Proofs.Latency.Samples

/-!
# Extremes that are kept

The extremes of a histogram can be read off its buckets, and that is what they are defined by. They
can also be *kept* beside the counts (`DivisionBenchmark.Extremes`), and then they are not what the
buckets say. A latency that is recorded is kept as it is; but of a histogram that is merged nothing
is known but what it reports, which are bounds of buckets, so these are taken over. Histograms of
the same samples may therefore keep different extremes, one to the nanosecond and the other rounded.

What they report is the same all the same. Reporting rounds to the bounds of buckets, rounding what
is rounded changes nothing (`DivisionBenchmark.Extremes.reported_reported`), and rounding keeps
order, so that it does not matter on which side of a merge it is done
(`DivisionBenchmark.Extremes.reported_join`).

Main statement: `DivisionBenchmark.Histogram.Origin.reports_extremes`, kept extremes report what is
read off the buckets, however the histogram came about.
-/

namespace DivisionBenchmark

/-- **Extremes that are kept**, in nanoseconds. -/
@[ext] structure Extremes where
  /-- The shortest latency that was met. -/
  shortest : Nat
  /-- The longest latency that was met. -/
  longest : Nat
  deriving DecidableEq, Repr

namespace Extremes

/-- The extremes of a single latency. -/
def of (nanos : Nat) : Extremes := ⟨Bucket.clamp nanos, Bucket.clamp nanos⟩

/-- The extremes of what either has met. -/
def join (e other : Extremes) : Extremes :=
  ⟨min e.shortest other.shortest, max e.longest other.longest⟩

/-- What is reported of extremes: the bounds of the buckets they are in. -/
def reported (e : Extremes) : Extremes := ⟨Bucket.lowest e.shortest, Bucket.highest e.longest⟩

/-- A latency more is kept as it is. -/
def record (kept : Option Extremes) (nanos : Nat) : Option Extremes :=
  kept.merge join (some (of nanos))

/-- The extremes of another histogram are kept as they are reported. -/
def takeOver (kept other : Option Extremes) : Option Extremes :=
  kept.merge join (other.map reported)

/-- The extremes that are kept of latencies, recorded one after the other. -/
def ofSamples (samples : List Nat) : Option Extremes := samples.foldl record none

/-! ### Rounding -/

/-- **Rounding keeps order**, so extremes may be rounded before they are put together. -/
theorem reported_join (e other : Extremes) :
    (e.join other).reported = e.reported.join other.reported := by
  have hshortest : Bucket.lowest (min e.shortest other.shortest) =
      min (Bucket.lowest e.shortest) (Bucket.lowest other.shortest) := by
    rcases Nat.le_total e.shortest other.shortest with h | h
    · rw [Nat.min_eq_left h, Nat.min_eq_left (Bucket.lowest_le_lowest h)]
    · rw [Nat.min_eq_right h, Nat.min_eq_right (Bucket.lowest_le_lowest h)]
  have hlongest : Bucket.highest (max e.longest other.longest) =
      max (Bucket.highest e.longest) (Bucket.highest other.longest) := by
    rcases Nat.le_total e.longest other.longest with h | h
    · rw [Nat.max_eq_right h, Nat.max_eq_right (Bucket.highest_le_highest h)]
    · rw [Nat.max_eq_left h, Nat.max_eq_left (Bucket.highest_le_highest h)]
  exact Extremes.ext hshortest hlongest

/-- What is reported is reported as it is. -/
theorem reported_reported (e : Extremes) : e.reported.reported = e.reported :=
  Extremes.ext (Bucket.lowest_lowest _) (Bucket.highest_highest _)

theorem join_assoc (e e' e'' : Extremes) : (e.join e').join e'' = e.join (e'.join e'') :=
  Extremes.ext (Nat.min_assoc _ _ _) (Nat.max_assoc _ _ _)

/-- What is reported of extremes put together is put together from what is reported. -/
theorem map_reported_merge (kept other : Option Extremes) :
    (kept.merge join other).map reported =
      (kept.map reported).merge join (other.map reported) := by
  cases kept with
  | none => rw [Option.merge_none_left, Option.map_none, Option.merge_none_left]
  | some e =>
    cases other with
    | none => rw [Option.merge_none_right, Option.map_none, Option.merge_none_right]
    | some e' => exact congrArg some (reported_join e e')

/-- It does not matter whether extremes are rounded before they are taken over. -/
theorem map_reported_takeOver (kept other : Option Extremes) :
    (takeOver kept other).map reported = (kept.merge join other).map reported := by
  rw [takeOver, map_reported_merge, map_reported_merge, Option.map_map]
  exact congrArg _ (congrArg (other.map ·) (funext reported_reported))

/-! ### Extremes of samples -/

theorem merge_join_assoc (kept kept' kept'' : Option Extremes) :
    (kept.merge join kept').merge join kept'' = kept.merge join (kept'.merge join kept'') := by
  cases kept <;> cases kept' <;> cases kept'' <;> simp [Option.merge, join_assoc]

theorem foldl_record (kept : Option Extremes) (samples : List Nat) :
    samples.foldl record kept = kept.merge join (ofSamples samples) := by
  induction samples generalizing kept with
  | nil => exact (Option.merge_none_right).symm
  | cons nanos samples ih =>
    have hfirst : ofSamples (nanos :: samples) =
        (some (of nanos)).merge join (ofSamples samples) := ih (some (of nanos))
    rw [List.foldl_cons, ih, hfirst, record, merge_join_assoc]

/-- Samples in two parts have the extremes of both. -/
theorem ofSamples_append (samples samples' : List Nat) :
    ofSamples (samples ++ samples') = (ofSamples samples).merge join (ofSamples samples') := by
  rw [ofSamples, List.foldl_append]
  exact foldl_record _ _

/-- The extremes of samples are the least and the greatest latency that is kept for them. -/
theorem ofSamples_eq (samples : List Nat) :
    (ofSamples samples).map shortest = (samples.map Bucket.clamp).min? ∧
      (ofSamples samples).map longest = (samples.map Bucket.clamp).max? := by
  have hfold (e : Extremes) (samples : List Nat) :
      samples.foldl record (some e) = some ⟨(samples.map Bucket.clamp).foldl min e.shortest,
        (samples.map Bucket.clamp).foldl max e.longest⟩ := by
    induction samples generalizing e with
    | nil => rfl
    | cons nanos samples ih => exact ih (e.join (of nanos))
  cases samples with
  | nil => exact ⟨rfl, rfl⟩
  | cons nanos samples =>
    have hcons : ofSamples (nanos :: samples) = _ := hfold (of nanos) samples
    rw [hcons, List.map_cons, List.min?_cons', List.max?_cons']
    exact ⟨rfl, rfl⟩

/-- **The extremes are kept of samples**, to the nanosecond or rounded: what they report is what is
reported of the samples. -/
def Keeps (samples : List Nat) (kept : Option Extremes) : Prop :=
  kept.map reported = (ofSamples samples).map reported

variable {samples samples' : List Nat} {kept other : Option Extremes}

theorem Keeps.record (h : Keeps samples kept) (nanos : Nat) :
    Keeps (samples ++ [nanos]) (record kept nanos) := by
  rw [Keeps, Extremes.record, map_reported_merge, h, ← map_reported_merge, ofSamples_append]
  rfl

/-- **Taking over what is reported is as good as recording.** -/
theorem Keeps.takeOver (h : Keeps samples kept) (hother : Keeps samples' other) :
    Keeps (samples ++ samples') (takeOver kept other) := by
  rw [Keeps, map_reported_takeOver, map_reported_merge, h, hother, ← map_reported_merge,
    ofSamples_append]

/-! ### What is reported -/

/-- **No extreme that is reported is beyond the bucket of the longest latency**, so every histogram
has room for what any other reports. -/
theorem Keeps.longest_reported_le (hkept : Keeps samples kept) {e : Extremes} (he : kept = some e) :
    e.reported.longest ≤ Bucket.highest Bucket.longest := by
  rw [Keeps, he] at hkept
  obtain ⟨e', he', hreported⟩ := Option.map_eq_some_iff.mp hkept.symm
  have hgreatest : (samples.map Bucket.clamp).max? = some e'.longest := by
    rw [← (ofSamples_eq samples).2, he']
    rfl
  obtain ⟨nanos, -, hclamp⟩ := List.mem_map.mp (List.max?_eq_some_iff.mp hgreatest).1
  rw [← hreported]
  show Bucket.highest e'.longest ≤ Bucket.highest Bucket.longest
  rw [← hclamp]
  exact Bucket.highest_le_highest (Bucket.clamp_le_longest nanos)

/-- The kept extremes report what is read off the buckets of a histogram. -/
structure Reports (h : Histogram) (kept : Option Extremes) : Prop where
  /-- The shortest latency is the same. -/
  min : h.min = kept.map fun e => Histogram.ofLatency e.reported.shortest
  /-- The longest latency is the same. -/
  max : h.max = kept.map fun e => Histogram.ofLatency e.reported.longest

/-- **Extremes that are kept of samples report what a histogram of the samples does.** -/
theorem Keeps.reports (hkept : Keeps samples kept) {h : Histogram} (hsamples : h.Holds samples) :
    Reports h kept := by
  obtain ⟨hshortest, hlongest⟩ := ofSamples_eq samples
  have hmap {α : Type} (f : Extremes → α) :
      (kept.map fun e => f e.reported) = (ofSamples samples).map fun e => f e.reported := by
    have := congrArg (Option.map f) hkept
    rwa [Option.map_map, Option.map_map] at this
  constructor
  · rw [hsamples.min_eq, hmap fun e => Histogram.ofLatency e.shortest, ← hshortest,
      Option.map_map]
    rfl
  · rw [hsamples.max_eq, hmap fun e => Histogram.ofLatency e.longest, ← hlongest, Option.map_map]
    rfl

end Extremes

namespace Histogram.Origin

/-- The extremes that are kept of a histogram that came about so. -/
def extremes : Origin → Option Extremes
  | .empty => none
  | .recordNanos before nanos => Extremes.record before.extremes nanos.toNat
  | .record before latency => Extremes.record before.extremes latency.nanos
  | .merge before other => Extremes.takeOver before.extremes other.extremes

theorem keeps_extremes (origin : Origin) : Extremes.Keeps origin.samples origin.extremes := by
  induction origin with
  | empty => rfl
  | recordNanos before nanos ih => exact ih.record nanos.toNat
  | record before latency ih => exact ih.record latency.nanos
  | merge before other ih ihother => exact ih.takeOver ihother

/-- **Kept extremes report what is read off the buckets**, however the histogram came about. -/
theorem reports_extremes (origin : Origin) : Extremes.Reports origin.histogram origin.extremes :=
  origin.keeps_extremes.reports origin.holds_samples

end Histogram.Origin

end DivisionBenchmark

import DivisionBenchmark.Latency.Bucket
import DivisionBenchmark.Latency.Tally
import DivisionBenchmark.Number.Binary64
import DivisionBenchmark.Time.Duration

/-!
# Histograms of latencies

How often each bucket of latencies was met. From the buckets come the extremes, the mean, the
standard deviation and the percentiles, each of them a duration; of no latency there is none. A
histogram that was merged so often that its size has reached the greatest 64-bit value may hold
more latencies than can be counted, and then only those percentiles it can count to.

Main definitions:

* `DivisionBenchmark.Histogram`: the histograms;
* `DivisionBenchmark.Histogram.record`, `DivisionBenchmark.Histogram.merge`: one latency more, and
  the latencies of another histogram;
* `DivisionBenchmark.Histogram.size`: how many latencies were recorded;
* `DivisionBenchmark.Histogram.rank`, `DivisionBenchmark.Histogram.percentile`: which latency in
  ascending order a percentile asks for, and the bucket bound it is answered with.

Mean and deviation are folds over the buckets in ascending order, every step rounded to binary64.
-/

namespace DivisionBenchmark

/-- **How often each bucket of latencies was met.** -/
@[ext] structure Histogram where
  /-- The buckets, each by its lowest latency. -/
  buckets : Tally
  deriving DecidableEq

namespace Histogram

/-- No latency was recorded. -/
def empty : Histogram := ⟨Tally.empty⟩

instance : Inhabited Histogram := ⟨empty⟩

/-- The histogram with one more latency of so many nanoseconds. -/
def recordNanos (h : Histogram) (nanos : Nat) : Histogram :=
  ⟨h.buckets.add (Bucket.lowest (Bucket.clamp nanos)) 1⟩

/-- The histogram with one more latency. -/
def record (h : Histogram) (latency : Duration) : Histogram := h.recordNanos latency.nanos

/-- The latencies of two histograms together. -/
def merge (h other : Histogram) : Histogram := ⟨h.buckets.merge other.buckets⟩

/-- How many latencies were recorded, at most the greatest 64-bit value. -/
def size (h : Histogram) : Nat := h.buckets.total

/-- Whether no latency was recorded. -/
def isEmpty (h : Histogram) : Bool := h.size == 0

/-- What a histogram answers, where it has something to answer. -/
def ifAny {α : Type} (h : Histogram) (answer : α) : Option α :=
  if h.isEmpty then none else some answer

/-! ### Extremes -/

/-- The lowest latency of the first bucket. -/
def lowestNanos (h : Histogram) : Nat :=
  match h.buckets.entries.head? with
  | some (bucket, _) => Bucket.lowest bucket
  | none => 0

/-- The highest latency of the last bucket. -/
def highestNanos (h : Histogram) : Nat :=
  match h.buckets.entries.getLast? with
  | some (bucket, _) => Bucket.highest bucket
  | none => 0

/-- A duration of a number of nanoseconds that a latency has. -/
def ofLatency (nanos : Nat) : Duration := Duration.ofNanos (UInt64.ofNat nanos)

/-- The shortest latency, down to the bound of its bucket. -/
def min (h : Histogram) : Option Duration := h.ifAny (ofLatency h.lowestNanos)

/-- The longest latency, up to the bound of its bucket. -/
def max (h : Histogram) : Option Duration := h.ifAny (ofLatency h.highestNanos)

/-! ### Percentiles -/

/-- The least bucket up to which so many latencies were recorded, after `before` of them. -/
def bucketAt (rank before : Nat) : List (Nat × Nat) → Option Nat
  | [] => none
  | (bucket, count) :: rest =>
    if rank ≤ before + count then some bucket else bucketAt rank (before + count) rest

/-- How many latencies were recorded up to the end of a block of buckets. -/
def sizeThrough (h : Histogram) (block : Nat) : Nat :=
  h.buckets.entries.foldr
    (fun (bucket, count) sum => if Bucket.block bucket ≤ block then count + sum else sum) 0

/-- The part of the latencies a percentile stands for, at most all of them. -/
def portion (percentile : Float) : Binary64 :=
  ((Binary64.ofFloat percentile).divNat 100).atMostOne

/-- **The rank of a percentile**: which latency it asks for, counted from one in ascending order. It
is the part of the size, rounded up, and never below one. -/
def rank (h : Histogram) (percentile : Float) : Nat :=
  match portion percentile with
  | .finite false part =>
    Max.max 1 (Min.min (part.mul (Dyadic.ofNat h.size)).ceil (Count.bound - 1))
  -- what is negative, or no number, asks for the first latency
  | _ => 1

/-- The bound a percentile is answered with: the highest latency of the bucket its rank falls in, or
the lowest where the percentile stands for none of the latencies. Buckets are counted a block at a
time, so the count must hold to the end of the block the rank falls in. -/
def percentileNanos (h : Histogram) (percentile : Float) : Except Fault Nat :=
  match bucketAt (h.rank percentile) 0 h.buckets.entries with
  | some bucket =>
    if Count.bound ≤ h.sizeThrough (Bucket.block bucket) then .error .sumOverflow
    else .ok (if (portion percentile).isZero then Bucket.lowest bucket else Bucket.highest bucket)
  | none => .ok 0

/-- **The latency at a percentile.** -/
def percentile (h : Histogram) (percentile : Float) : Except Fault (Option Duration) :=
  if h.isEmpty then .ok none
  else (h.percentileNanos percentile).map fun nanos => some (ofLatency nanos)

/-! ### Mean and deviation -/

/-- A count as a binary64 number. -/
def toFloat (n : Nat) : Float := (UInt64.ofNat n).toFloat

/-- The mean of the latencies, each taken for the middle of its bucket. -/
def meanNanos (h : Histogram) : Float :=
  h.buckets.entries.foldl
    (fun mean (bucket, count) =>
      mean + toFloat (Bucket.median bucket) * toFloat count / toFloat h.size) 0

/-- The standard deviation of the latencies, each taken for the middle of its bucket. -/
def deviationNanos (h : Histogram) : Float :=
  let mean := h.meanNanos
  let squares := h.buckets.entries.foldl
    (fun sum (bucket, count) =>
      let distance := toFloat (Bucket.median bucket) - mean
      sum + distance * distance * toFloat count) 0
  (squares / toFloat h.size).sqrt

/-- The mean of the latencies, in whole nanoseconds. -/
def mean (h : Histogram) : Option Duration := h.ifAny (Duration.ofNanos h.meanNanos.toUInt64)

/-- The standard deviation of the latencies, in whole nanoseconds. -/
def deviation (h : Histogram) : Option Duration :=
  h.ifAny (Duration.ofNanos h.deviationNanos.toUInt64)

/-! ### What recording changes -/

theorem count_recordNanos (h : Histogram) (nanos bucket : Nat) :
    (h.recordNanos nanos).buckets.count bucket =
      if bucket = Bucket.lowest (Bucket.clamp nanos) then
        Count.saturatingAdd (h.buckets.count bucket) 1
      else h.buckets.count bucket := by
  rw [recordNanos, Tally.count_add]
  simp

end Histogram

end DivisionBenchmark

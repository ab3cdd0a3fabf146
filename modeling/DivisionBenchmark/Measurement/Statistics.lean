import DivisionBenchmark.Latency.Histogram
import DivisionBenchmark.Time.Rate

/-!
# Statistics of an operation

Two views of one measurement. Every measured iteration leaves a *score*, the nanoseconds of one
invocation on average; every measured invocation leaves a latency. Counters and times are checked
sums, so statistics either add up exactly or the measurement is abandoned.

Main definitions:

* `DivisionBenchmark.Statistics`: what is known of an operation under a trial;
* `DivisionBenchmark.Statistics.recordInvocation`, `DivisionBenchmark.Statistics.recordIteration`:
  one invocation more, and one iteration more;
* `DivisionBenchmark.Statistics.merge`: the statistics of another trial put behind these;
* `DivisionBenchmark.Statistics.meanScore` and its neighbours: what is reported.
-/

namespace DivisionBenchmark

/-- **What is known of an operation under a trial.** -/
@[ext] structure Statistics where
  /-- The scores of the measured iterations, in their order. They are taken to find room. -/
  scores : Array Float
  /-- The invocations of the measured iterations. -/
  invocations : UInt64
  /-- The time of the measured iterations. -/
  measuredTime : Duration
  /-- The latencies of the measured invocations. -/
  latency : Histogram

namespace Statistics

/-- Nothing was measured. -/
def empty : Statistics := ⟨#[], 0, Duration.zero, Histogram.empty⟩

instance : Inhabited Statistics := ⟨empty⟩

/-- The statistics with one invocation more, of so many nanoseconds. -/
def recordInvocation (s : Statistics) (nanos : UInt64) : Statistics :=
  { s with latency := s.latency.recordNanos nanos.toNat }

/-- The statistics with one iteration more, of so many invocations in that time. -/
def recordIteration (s : Statistics) (elapsed : Duration) (invocations : UInt64) :
    Except Fault Statistics := do
  return { s with
    scores := s.scores.push (nanosPerOperation elapsed invocations)
    invocations := ← Count.add s.invocations invocations
    measuredTime := ← s.measuredTime.add elapsed }

/-- **The statistics of two trials together**, the second behind the first. -/
def merge (s other : Statistics) : Except Fault Statistics := do
  return {
    scores := s.scores ++ other.scores
    invocations := ← Count.add s.invocations other.invocations
    measuredTime := ← s.measuredTime.add other.measuredTime
    latency := s.latency.merge other.latency }

/-! ### What is reported -/

/-- The mean of the scores, where there are any: their sum from the left by their number. -/
def meanScore (s : Statistics) : Option Float :=
  if s.scores.isEmpty then none
  else some (s.scores.foldl (· + ·) 0 / (UInt64.ofNat s.scores.size).toFloat)

/-- The least score, where there are any. -/
def minScore (s : Statistics) : Option Float :=
  s.scores[0]?.map fun first => s.scores.foldl (fun a b => if b < a then b else a) first

/-- The greatest score, where there are any. -/
def maxScore (s : Statistics) : Option Float :=
  s.scores[0]?.map fun first => s.scores.foldl (fun a b => if a < b then b else a) first

/-- The mean score by the number of operand pairs: the nanoseconds of a single division. -/
def meanPerElement (s : Statistics) (bufferSize : UInt64) : Option Float :=
  if bufferSize = 0 then none else s.meanScore.map (· / bufferSize.toFloat)

/-! ### What recording changes -/

/-- An iteration adds its score, its invocations and its time, and no latency. It is recorded
wherever the sums have their 64 bits. -/
theorem recordIteration_eq_ok_iff {s t : Statistics} {elapsed : Duration} {invocations : UInt64} :
    s.recordIteration elapsed invocations = .ok t ↔
      t.scores = s.scores.push (nanosPerOperation elapsed invocations) ∧
        s.invocations.toNat + invocations.toNat = t.invocations.toNat ∧
        s.measuredTime.nanos + elapsed.nanos = t.measuredTime.nanos ∧
        t.latency = s.latency := by
  rw [← Count.add_eq_ok_iff, ← Duration.add_eq_ok_iff]
  unfold recordIteration
  cases Count.add s.invocations invocations <;> cases s.measuredTime.add elapsed <;>
    simp [bind, Except.bind, pure, Except.pure, Statistics.ext_iff]
  constructor
  · rintro ⟨hscores, rfl, rfl, hlatency⟩
    exact ⟨hscores.symm, rfl, rfl, hlatency.symm⟩
  · rintro ⟨hscores, rfl, rfl, hlatency⟩
    exact ⟨hscores.symm, rfl, rfl, hlatency.symm⟩

/-- Merging adds up the counts and the times, and puts the rest together. -/
theorem merge_eq_ok_iff {s other t : Statistics} :
    s.merge other = .ok t ↔
      t.scores = s.scores ++ other.scores ∧
        s.invocations.toNat + other.invocations.toNat = t.invocations.toNat ∧
        s.measuredTime.nanos + other.measuredTime.nanos = t.measuredTime.nanos ∧
        t.latency = s.latency.merge other.latency := by
  rw [← Count.add_eq_ok_iff, ← Duration.add_eq_ok_iff]
  unfold merge
  cases Count.add s.invocations other.invocations <;>
    cases s.measuredTime.add other.measuredTime <;>
    simp [bind, Except.bind, pure, Except.pure, Statistics.ext_iff]
  constructor
  · rintro ⟨hscores, rfl, rfl, hlatency⟩
    exact ⟨hscores.symm, rfl, rfl, hlatency.symm⟩
  · rintro ⟨hscores, rfl, rfl, hlatency⟩
    exact ⟨hscores.symm, rfl, rfl, hlatency.symm⟩

end Statistics

end DivisionBenchmark

import DivisionBenchmark.Kernel.Operation
import DivisionBenchmark.Time.Duration

/-!
# Configurations

What a run of the benchmark is told: what to measure, how to time it, and how to report it. Every
setting has a value of its own where nothing is said about it.

Main definitions:

* `DivisionBenchmark.Workload`, `DivisionBenchmark.RunnerSettings`,
  `DivisionBenchmark.ReportSettings`: the three groups of settings;
* `DivisionBenchmark.Config`: the three together;
* `DivisionBenchmark.Workload.trials`, `DivisionBenchmark.Workload.pairs`: what a sweep visits, in
  its order;
* `DivisionBenchmark.Workload.reserve`: room for what a sweep leaves.
-/

namespace DivisionBenchmark

/-- **What is measured**: every operation under every divisor type and buffer size. -/
structure Workload where
  /-- The divisor types that are swept. -/
  divisorTypes : List DivisorType := DivisorType.all
  /-- The buffer sizes that are swept. -/
  bufferSizes : List UInt64 := [Trial.referenceSize]
  /-- The operations measured under each trial. -/
  operations : List Operation := Operation.all
  deriving DecidableEq, Repr, Inhabited

namespace Workload

/-- The trials of a sweep: the buffer size changes before the divisor type does. -/
def trials (w : Workload) : List Trial :=
  w.divisorTypes.flatMap fun kind => w.bufferSizes.map fun size => ⟨kind, size⟩

/-- What a sweep measures: the operation changes before the trial does. -/
def pairs (w : Workload) : List (Trial × Operation) :=
  w.trials.flatMap fun trial => w.operations.map fun operation => (trial, operation)

/-- The number of benchmarks of a workload. -/
def benchmarks (w : Workload) : Nat := w.trials.length * w.operations.length

/-- The number of benchmarks as a count, a fault where it has no 64-bit value. -/
def benchmarkCount (w : Workload) : Except Fault UInt64 :=
  if w.benchmarks < Count.bound then .ok (.ofNat w.benchmarks) else .error .productOverflow

/-- Room for the results of a sweep, one for each benchmark, where a result takes so many bytes. The
trials are taken to find room: they need less than the results of one operation. -/
def reserve (w : Workload) (resultSize : Nat) : Except Fault Unit := do
  let total ← w.benchmarkCount
  Count.reserve total.toNat resultSize

/-- There is a trial for each divisor type and each buffer size. -/
theorem length_trials (w : Workload) :
    w.trials.length = w.divisorTypes.length * w.bufferSizes.length := by
  unfold trials
  induction w.divisorTypes with
  | nil => simp
  | cons kind kinds ih => simp [ih, Nat.succ_mul, Nat.add_comm]

/-- The results find room where their number is a count and their bytes can be addressed; the first
of the two that fails says why they find none. -/
theorem reserve_eq (w : Workload) (resultSize : Nat) :
    w.reserve resultSize =
      if w.benchmarks < Count.bound then Count.reserve w.benchmarks resultSize
      else .error .productOverflow := by
  unfold reserve benchmarkCount
  split
  · rename_i h
    exact congrArg (Count.reserve · resultSize) (UInt64.toNat_ofNat_of_lt h)
  · rfl

theorem reserve_eq_ok_iff {w : Workload} {resultSize : Nat} :
    w.reserve resultSize = .ok () ↔
      w.benchmarks < Count.bound ∧ w.benchmarks * resultSize ≤ Count.addressable := by
  rw [reserve_eq]
  split
  · rename_i h
    rw [Count.reserve_eq_ok_iff, and_iff_right h]
  · rename_i h
    constructor
    · intro hok
      cases hok
    · rintro ⟨hcount, -⟩
      exact absurd hcount h

theorem reserve_of_uncountable {w : Workload} (resultSize : Nat)
    (h : Count.bound ≤ w.benchmarks) : w.reserve resultSize = .error .productOverflow := by
  rw [reserve_eq, if_neg (Nat.not_lt.mpr h)]

theorem reserve_of_unaddressable {w : Workload} {resultSize : Nat}
    (hcount : w.benchmarks < Count.bound)
    (h : Count.addressable < w.benchmarks * resultSize) :
    w.reserve resultSize = .error .capacityOverflow := by
  rw [reserve_eq, if_pos hcount, Count.reserve, if_neg (Nat.not_le.mpr h)]

theorem mem_trials_iff {w : Workload} {trial : Trial} :
    trial ∈ w.trials ↔
      trial.divisorType ∈ w.divisorTypes ∧ trial.bufferSize ∈ w.bufferSizes := by
  unfold trials
  rw [List.mem_flatMap]
  constructor
  · rintro ⟨kind, hkind, h⟩
    obtain ⟨size, hsize, rfl⟩ := List.mem_map.mp h
    exact ⟨hkind, hsize⟩
  · rintro ⟨hkind, hsize⟩
    exact ⟨trial.divisorType, hkind, List.mem_map.mpr ⟨trial.bufferSize, hsize, rfl⟩⟩

theorem mem_pairs_iff {w : Workload} {trial : Trial} {operation : Operation} :
    (trial, operation) ∈ w.pairs ↔ trial ∈ w.trials ∧ operation ∈ w.operations := by
  unfold pairs
  rw [List.mem_flatMap]
  constructor
  · rintro ⟨t, ht, h⟩
    obtain ⟨o, ho, he⟩ := List.mem_map.mp h
    cases he
    exact ⟨ht, ho⟩
  · rintro ⟨ht, ho⟩
    exact ⟨trial, ht, List.mem_map.mpr ⟨operation, ho, rfl⟩⟩

end Workload

/-- **How an operation is timed.** -/
structure RunnerSettings where
  /-- The iterations run before any is measured. -/
  warmupIterations : UInt64 := 5
  /-- The iterations that are measured. -/
  measurementIterations : UInt64 := 5
  /-- The time of one iteration, in milliseconds. -/
  iterationMillis : UInt64 := 1000
  /-- The trials of an operation, each with buffers of its own. -/
  trials : UInt64 := 3
  /-- The cores trials are pinned to, as they were written. -/
  cpuCores : Option String := none
  deriving DecidableEq, Repr, Inhabited

/-- The time of one iteration. -/
def RunnerSettings.iterationTime (r : RunnerSettings) : Duration := .ofMillis r.iterationMillis

/-- **How a run is reported.** -/
structure ReportSettings where
  /-- The file the JSON report is written to. -/
  jsonOutput : Option String := none
  /-- Whether the JSON report is spread over lines. -/
  prettyJson : Bool := true
  /-- Whether the latency percentiles are shown. -/
  showPercentiles : Bool := false
  deriving DecidableEq, Repr, Inhabited

/-- **A configuration of the benchmark.** -/
structure Config where
  /-- What is measured. -/
  workload : Workload := {}
  /-- How it is timed. -/
  runner : RunnerSettings := {}
  /-- How it is reported. -/
  report : ReportSettings := {}
  deriving DecidableEq, Repr, Inhabited

/-- The configuration of a run that was told nothing. -/
def Config.default : Config := {}

end DivisionBenchmark

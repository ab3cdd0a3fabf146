import DivisionBenchmark.Config.Settings
import DivisionBenchmark.Machine.CoreList
import DivisionBenchmark.Measurement.Statistics
import DivisionBenchmark.Measurement.Timed

/-!
# Running trials

A trial sets up its buffers, runs the warm-up iterations for nothing, and then measures. An
iteration invokes the operation again and again until its time is over, and at least once; each
invocation stands between two readings of the clock. Trials follow one another and share no
buffers. A fault inside a trial ends the sweep: it becomes an error that names the trial. A sweep
whose results would find no room is abandoned before its first trial.

Main definitions:

* `DivisionBenchmark.Runner`: how operations are timed;
* `DivisionBenchmark.iterate`: one iteration;
* `DivisionBenchmark.Runner.runTrial`, `DivisionBenchmark.Runner.runIsolated`: one trial, and one
  trial whose faults are caught;
* `DivisionBenchmark.Runner.measure`: the trials of an operation, put together;
* `DivisionBenchmark.Runner.runSweep`: what a workload asks for, in its order.
-/

namespace DivisionBenchmark

/-- A measurement: it reads the clock and may fail. -/
abbrev Measuring := ExceptT Failure Timed

/-- A computation that may fail and reads no clock, as a part of a measurement. -/
def Measuring.ofExcept {α : Type} (x : Except Failure α) : Measuring α := ExceptT.mk (pure x)

/-- A computation that may fault, as a part of a measurement. -/
def Measuring.ofFault {α : Type} (x : Except Fault α) : Measuring α :=
  ofExcept (x.mapError .faulted)

/-- A reading of the clock, as a part of a measurement. -/
def Measuring.now : Measuring UInt64 := ExceptT.lift Timed.now

/-- The nanoseconds from an earlier reading to a later one; none where the clock went back. -/
def nanosBetween (earlier later : UInt64) : UInt64 :=
  if earlier ≤ later then later - earlier else 0

/-! ### Iterations -/

/-- **What an iteration leaves.** -/
structure Iteration where
  /-- The buffers after the last invocation. -/
  buffers : Buffers
  /-- The statistics, if any were kept, with the latency of each invocation. -/
  statistics : Option Statistics
  /-- The time from the start of the iteration to the end of its last invocation. -/
  elapsed : Duration
  /-- The number of invocations. -/
  invocations : UInt64

/-- Invokes an operation until the time since `start` reaches the budget. The number of invocations
is a 64-bit count, and `room` is how many more it can take: an invocation beyond them faults. -/
def invokeFor (operation : Operation) (budget start : UInt64) :
    Nat → Buffers → Option Statistics → UInt64 → Measuring Iteration
  | room, buffers, statistics, invocations => do
    let before ← Measuring.now
    let buffers ← Measuring.ofFault (operation.run buffers)
    let after ← Measuring.now
    let statistics := statistics.map (·.recordInvocation (nanosBetween before after))
    match room with
    -- the invocation has happened, but there is no count for it
    | 0 => throw (.faulted .sumOverflow)
    | room + 1 =>
      let invocations := invocations + 1
      let elapsed := nanosBetween start after
      -- only the clock ends an iteration, and it is asked after an invocation
      if budget ≤ elapsed then
        return ⟨buffers, statistics, .ofNanos elapsed, invocations⟩
      else invokeFor operation budget start room buffers statistics invocations

/-- **One iteration** of at least so much time. The latencies go to the statistics, if there are
any. -/
def iterate (operation : Operation) (buffers : Buffers) (time : Duration)
    (statistics : Option Statistics) : Measuring Iteration := do
  let start ← Measuring.now
  invokeFor operation time.toNanos start (Count.bound - 1) buffers statistics 0

/-! ### Trials -/

/-- **How operations are timed.** -/
structure Runner where
  /-- The iterations run before any is measured. -/
  warmupIterations : UInt64
  /-- The iterations that are measured. -/
  measurementIterations : UInt64
  /-- The time of one iteration. -/
  iterationTime : Duration
  /-- The trials of an operation. -/
  trials : UInt64
  /-- The cores trials are pinned to. What cannot be pinned runs unpinned. -/
  cores : Option (List Nat)
  deriving DecidableEq, Repr

/-- **A measured operation.** -/
structure Measurement where
  /-- The operation that was measured. -/
  operation : Operation
  /-- The trial it was measured under. -/
  trial : Trial
  /-- What the measurement gave. -/
  statistics : Statistics

namespace Runner

/-- The runner that settings describe. -/
def ofSettings (settings : RunnerSettings) : Except CoreList.Error Runner := do
  let cores ← settings.cpuCores.mapM CoreList.parse
  return {
    warmupIterations := settings.warmupIterations
    measurementIterations := settings.measurementIterations
    iterationTime := settings.iterationTime
    trials := settings.trials
    cores }

/-- The runner of settings with cores is pinned to those that are read. -/
theorem ofSettings_of_parse {settings : RunnerSettings} {text : String} {cores : List Nat}
    (htext : settings.cpuCores = some text) (hparse : CoreList.parse text = .ok cores) :
    ofSettings settings =
      .ok ⟨settings.warmupIterations, settings.measurementIterations, settings.iterationTime,
        settings.trials, some cores⟩ := by
  rw [ofSettings, htext, Option.mapM_some, hparse]
  rfl

/-- So many iterations that leave nothing but their buffers. -/
def warmUp (runner : Runner) (operation : Operation) : Nat → Buffers → Measuring Buffers
  | 0, buffers => return buffers
  | n + 1, buffers => do
    let iteration ← iterate operation buffers runner.iterationTime none
    warmUp runner operation n iteration.buffers

/-- So many measured iterations, put behind what was measured before. -/
def measureIterations (runner : Runner) (operation : Operation) :
    Nat → Buffers → Statistics → Measuring Statistics
  | 0, _, statistics => return statistics
  | n + 1, buffers, statistics => do
    let iteration ← iterate operation buffers runner.iterationTime (some statistics)
    let statistics ← Measuring.ofFault <|
      (iteration.statistics.getD statistics).recordIteration iteration.elapsed
        iteration.invocations
    measureIterations runner operation n iteration.buffers statistics

/-- **One trial** of an operation. -/
def runTrial (runner : Runner) (trial : Trial) (operation : Operation) :
    Measuring Statistics := do
  let buffers ← Measuring.ofExcept (Buffers.setup trial)
  let buffers ← runner.warmUp operation runner.warmupIterations.toNat buffers
  runner.measureIterations operation runner.measurementIterations.toNat buffers .empty

/-- One trial of an operation, numbered; a fault in it becomes an error that names the trial. -/
def runIsolated (runner : Runner) (trial : Trial) (operation : Operation) (index : Nat) :
    Measuring Statistics :=
  tryCatch (runner.runTrial trial operation) fun failure =>
    match failure with
    | .faulted fault =>
      throw (.rejected (.trialPanicked operation.name index fault.message))
    | .rejected error => throw (.rejected error)

/-- So many trials from a number on, put behind what was measured before. -/
def measureTrials (runner : Runner) (trial : Trial) (operation : Operation) :
    Nat → Nat → Statistics → Measuring Statistics
  | 0, _, statistics => return statistics
  | n + 1, index, statistics => do
    let measured ← runner.runIsolated trial operation index
    let statistics ← Measuring.ofFault (statistics.merge measured)
    measureTrials runner trial operation n (index + 1) statistics

/-- **The trials of an operation**, put together. -/
def measure (runner : Runner) (trial : Trial) (operation : Operation) : Measuring Measurement := do
  let statistics ← runner.measureTrials trial operation runner.trials.toNat 0 .empty
  return { operation, trial, statistics }

/-- **What a workload asks for**, in its order; the first failure ends the sweep. Before anything is
measured there must be room for the results, each of so many bytes. -/
def runSweep (runner : Runner) (workload : Workload) (resultSize : Nat) :
    Measuring (List Measurement) := do
  Measuring.ofFault (workload.reserve resultSize)
  workload.pairs.mapM fun (trial, operation) => runner.measure trial operation

end Runner

end DivisionBenchmark

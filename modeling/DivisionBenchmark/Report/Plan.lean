import DivisionBenchmark.Config.Settings
import DivisionBenchmark.Time.Rate

/-!
# The plan of a run

What a run is going to do, shown before it is done: the settings, and how long it will take. The
time is that of all iterations of all trials, warm-up included, under the assumption that each takes
the time it is given. The numbers of iterations and of benchmarks enter the product by their lower
32 bits; every sum and product is checked.

Main definitions:

* `DivisionBenchmark.Config.estimate`: the time a run takes;
* `DivisionBenchmark.Config.plan`: the plan as text.
-/

namespace DivisionBenchmark

/-- The time one benchmark takes. -/
def RunnerSettings.benchmarkTime (r : RunnerSettings) : Except Fault Duration := do
  let iterations ← Count.add r.warmupIterations r.measurementIterations
  let iterations ← Count.mul iterations r.trials
  r.iterationTime.scale iterations.toUInt32

namespace Config

/-- **The time a run takes.** -/
def estimate (c : Config) : Except Fault Duration := do
  let benchmarks ← c.workload.benchmarkCount
  let benchmark ← c.runner.benchmarkTime
  benchmark.scale benchmarks.toUInt32

/-- The lines of a plan that say what is set. -/
def settingLines (c : Config) : List String :=
  let time := c.runner.iterationTime.toText
  ["Configuration:",
    "  Divisor types: " ++ ", ".intercalate (c.workload.divisorTypes.map (·.name)),
    "  Buffer sizes:  " ++ ", ".intercalate (c.workload.bufferSizes.map (·.toNat.repr)),
    "  Operations:    " ++ ", ".intercalate (c.workload.operations.map (·.name)),
    s!"  Warmup:        {c.runner.warmupIterations.toNat} iterations, {time} each",
    s!"  Measurement:   {c.runner.measurementIterations.toNat} iterations, {time} each",
    s!"  Trials:        {c.runner.trials.toNat}"] ++
  (c.runner.cpuCores.map fun cores => "  CPU cores:     " ++ cores).toList

/-- The line of a plan that says how long the run will take. -/
def estimateLine (benchmarks : Nat) (time : Duration) : String :=
  s!"  Estimated:     {benchmarks} benchmarks, ~{time.toText}"

/-- **The plan of a run.** -/
def plan (c : Config) : Except Fault String := do
  let time ← c.estimate
  let lines := c.settingLines ++ [estimateLine c.workload.benchmarks time]
  return String.join (lines.map (· ++ "\n"))

end Config

end DivisionBenchmark

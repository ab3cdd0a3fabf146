import DivisionBenchmark.Identity
import DivisionBenchmark.Measurement.Runner
import DivisionBenchmark.Report.Json

/-!
# The JSON report

The report of a run as a JSON document: what made it and when, how operations were timed, and an
entry for each measurement, in their order. An entry has the latencies only where there are any.
There is no report where a percentile cannot be counted to.

Main definitions:

* `DivisionBenchmark.Measurement.entry`: the entry of a measurement;
* `DivisionBenchmark.reportDocument`: the report;
* `DivisionBenchmark.reportText`: its text.
-/

namespace DivisionBenchmark

/-- The nanoseconds of a duration as a 64-bit count. -/
def nanosDocument (d : Duration) : Json := .count (UInt64.ofNat d.nanos).toNat

/-- The latencies of a measurement, where there are any. -/
def latencyDocument? (h : Histogram) : Except Fault (Option Json) := do
  let p50 ← h.percentile 50
  let p90 ← h.percentile 90
  let p99 ← h.percentile 99
  let p99_9 ← h.percentile 99.9
  let latencies : List (String × Option Duration) := [
    ("min_ns", h.min), ("max_ns", h.max), ("mean_ns", h.mean),
    ("p50_ns", p50), ("p90_ns", p90), ("p99_ns", p99), ("p99_9_ns", p99_9)]
  -- either all of them are there or none is
  let fields := latencies.mapM fun (name, latency) => return (name, nanosDocument (← latency))
  return fields.map Json.object

/-- **The entry of a measurement.** -/
def Measurement.entry (m : Measurement) : Except Fault Json := do
  let latency ← latencyDocument? m.statistics.latency
  return .object ([
    ("benchmark", .string m.operation.name),
    ("divisor_type", .string m.trial.divisorType.name),
    ("buffer_size", .count m.trial.bufferSize.toNat),
    ("mode", .string "avgt"),
    ("unit", .string "ns/op"),
    ("score", .real (m.statistics.meanScore.getD 0)),
    ("scores", .array (m.statistics.scores.toList.map .real)),
    ("ns_per_division", .real ((m.statistics.meanPerElement m.trial.bufferSize).getD 0)),
    ("invocations", .count m.statistics.invocations.toNat)] ++
    latency.toList.map fun latency => ("latency", latency))

/-- How operations were timed, as a document. -/
def RunnerSettings.document (r : RunnerSettings) : Json :=
  .object [
    ("warmup_iterations", .count r.warmupIterations.toNat),
    ("measurement_iterations", .count r.measurementIterations.toNat),
    ("iteration_time_ms", .count r.iterationMillis.toNat),
    ("trials", .count r.trials.toNat),
    ("cpu_cores", (r.cpuCores.map Json.string).getD .null)]

/-- **The report of a run** that started at a time. -/
def reportDocument (timestamp : String) (settings : RunnerSettings)
    (results : List Measurement) : Except Fault Json := do
  let entries ← results.mapM (·.entry)
  return .object [
    ("tool", .string programName),
    ("version", .string programVersion),
    ("timestamp", .string timestamp),
    ("runner", settings.document),
    ("results", .array entries)]

/-- The text of a report, spread over lines or on one. -/
def reportText (timestamp : String) (config : Config) (results : List Measurement) :
    Except Fault String := do
  let document ← reportDocument timestamp config.runner results
  return if config.report.prettyJson then document.pretty else document.compact

end DivisionBenchmark

import DivisionBenchmark.CommandLine.Options
import DivisionBenchmark.Config.Loading

/-!
# Options over a configuration

A configuration has three layers: what it is by itself, what a file says, and what the command line
says, each over the one before. A list on the command line replaces the list below it, and never
adds to it.

Main definitions:

* `DivisionBenchmark.CommandLine.Options.override`: the options laid over a configuration;
* `DivisionBenchmark.CommandLine.Options.effective`: the configuration of a command line, with the
  file it names;
* `DivisionBenchmark.CommandLine.Options.validate`: what can be told to be wrong from the options
  alone.
-/

namespace DivisionBenchmark.CommandLine

/-- **What can be told to be wrong from options alone.** -/
inductive OptionError where
  /-- A buffer size is zero. -/
  | zeroBufferSize
  /-- No iteration would be measured. -/
  | noMeasurementIteration
  /-- There would be no trial. -/
  | noTrial
  deriving DecidableEq, Repr

/-- The text an error is reported with. -/
def OptionError.message : OptionError → String
  | .zeroBufferSize => "buffer-size must be at least 1"
  | .noMeasurementIteration => "measurement-iterations must be at least 1"
  | .noTrial => "trials must be at least 1"

namespace Options

/-- Whether the options can be right. -/
def validate (o : Options) : Except OptionError Unit :=
  if 0 ∈ o.bufferSizes then .error .zeroBufferSize
  else if o.measurementIterations = some 0 then .error .noMeasurementIteration
  else if o.trials = some 0 then .error .noTrial
  else .ok ()

/-- A list, or the one below it where it is empty. -/
def listOr {α : Type} (list below : List α) : List α := if list.isEmpty then below else list

/-- The milliseconds that cover the iteration time of the options, or those below. -/
def iterationMillis (o : Options) (below : UInt64) : Except Config.LoadError UInt64 :=
  match o.iterationTime with
  | none => .ok below
  | some text => do
    let time ← (IterationTime.parse text).mapError .badIterationTime
    time.ceilMillis.mapError .faulted

/-- **The options laid over a configuration.** -/
def override (o : Options) (c : Config) : Except Config.LoadError Config := do
  let iterationMillis ← o.iterationMillis c.runner.iterationMillis
  return {
    workload := {
      divisorTypes := listOr o.divisorTypes c.workload.divisorTypes
      bufferSizes := listOr o.bufferSizes c.workload.bufferSizes
      operations := listOr o.operations c.workload.operations }
    runner := {
      warmupIterations := o.warmupIterations.getD c.runner.warmupIterations
      measurementIterations := o.measurementIterations.getD c.runner.measurementIterations
      iterationMillis
      trials := o.trials.getD c.runner.trials
      cpuCores := o.cpuCores <|> c.runner.cpuCores }
    report := {
      jsonOutput := o.jsonOutput <|> c.report.jsonOutput
      prettyJson := c.report.prettyJson && !o.compactJson
      showPercentiles := c.report.showPercentiles || o.showPercentiles } }

/-- The configuration under the options: that of the file they name, or the one a run has that was
told nothing. -/
def base (o : Options) (files : Files) : Except Config.LoadError Config :=
  match o.config with
  | some path => Config.load files path
  | none => .ok Config.default

/-- **The configuration of a command line.** -/
def effective (o : Options) (files : Files) : Except Config.LoadError Config := do
  o.override (← o.base files)

end Options

end DivisionBenchmark.CommandLine

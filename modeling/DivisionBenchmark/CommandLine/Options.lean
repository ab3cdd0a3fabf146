import DivisionBenchmark.CommandLine.Parameter
import DivisionBenchmark.Kernel.Operation
import DivisionBenchmark.Text.Numeral
import DivisionBenchmark.Text.Split

/-!
# Options

What a command line sets. Settings that take lists may be given more than once and add up; any
other setting, and any switch, may be given only once.

Main definitions:

* `DivisionBenchmark.CommandLine.UsageError`: what can be wrong with a command line;
* `DivisionBenchmark.CommandLine.Options`: what a command line sets;
* `DivisionBenchmark.CommandLine.Options.set`, `DivisionBenchmark.CommandLine.Options.turnOn`: a
  setting with its value, and a switch.
-/

namespace DivisionBenchmark.CommandLine

/-- **What is wrong with a command line.** -/
inductive UsageError where
  /-- An argument is no parameter. -/
  | unknownArgument (argument : String)
  /-- A setting has no value, or one that is empty where something is needed. -/
  | noValue (setting : Setting)
  /-- A value is not one of the setting. -/
  | badValue (setting : Setting) (value cause : String)
  /-- A parameter that may be given only once is given again. -/
  | givenAgain (parameter : Parameter)
  /-- A parameter that takes no value is given one. -/
  | unneededValue (parameter : Parameter) (value : String)
  deriving DecidableEq, Repr

/-- **What a command line sets.** -/
structure Options where
  /-- The configuration file. -/
  config : Option String := none
  /-- The divisor types to sweep; none where nothing is said of them. -/
  divisorTypes : List DivisorType := []
  /-- The buffer sizes to sweep; none where nothing is said of them. -/
  bufferSizes : List UInt64 := []
  /-- The operations to measure; none where nothing is said of them. -/
  operations : List Operation := []
  /-- The number of warm-up iterations. -/
  warmupIterations : Option UInt64 := none
  /-- The number of measured iterations. -/
  measurementIterations : Option UInt64 := none
  /-- The time of an iteration, as it was written. -/
  iterationTime : Option String := none
  /-- The number of trials. -/
  trials : Option UInt64 := none
  /-- The cores to pin to, as they were written. -/
  cpuCores : Option String := none
  /-- The file of the JSON report. -/
  jsonOutput : Option String := none
  /-- What is logged. -/
  logLevel : Option String := none
  /-- Whether the JSON report stands on a single line. -/
  compactJson : Bool := false
  /-- Whether latency percentiles are shown. -/
  showPercentiles : Bool := false
  /-- Whether the operations are listed. -/
  list : Bool := false
  /-- Whether only the plan is shown. -/
  dryRun : Bool := false
  deriving DecidableEq, Repr, Inhabited

namespace Options

/-- The 64-bit count that a value of a setting stands for. -/
def readCount (setting : Setting) (value : String) : Except UsageError UInt64 :=
  match Text.readCount value.toList with
  | .ok n => .ok (UInt64.ofNat n)
  | .error cause => .error (.badValue setting value cause.message)

/-- The path that a value of a setting stands for, which is not empty. -/
def readPath (setting : Setting) (value : String) : Except UsageError String :=
  if value = "" then .error (.noValue setting) else .ok value

/-- What a name that is a value of a setting names. -/
def readName {α : Type} (ofText : String → Except BenchmarkError α) (setting : Setting)
    (value : String) : Except UsageError α :=
  match ofText value with
  | .ok a => .ok a
  | .error error => .error (.badValue setting value error.message)

/-- The values of a setting that takes a list: the parts between the commas. -/
def readList {α : Type} (read : Setting → String → Except UsageError α) (setting : Setting)
    (value : String) : Except UsageError (List α) :=
  ((Text.splitOn ',' value.toList).map String.ofList).mapM (read setting)

/-- The value of a setting that may be given only once. -/
def readOnce {α : Type} (read : Setting → String → Except UsageError α) (before : Option α)
    (setting : Setting) (value : String) : Except UsageError (Option α) :=
  if before.isSome then .error (.givenAgain (.setting setting))
  else some <$> read setting value

/-- A value of a setting that may be any text. -/
def readText (_ : Setting) (value : String) : Except UsageError String := .ok value

/-- **The options with a setting given once more.** -/
def set (o : Options) (setting : Setting) (value : String) : Except UsageError Options :=
  match setting with
  | .config => do return { o with config := ← readOnce readPath o.config setting value }
  | .divisorType => do
    let values ← readList (readName DivisorType.ofText) setting value
    return { o with divisorTypes := o.divisorTypes ++ values }
  | .bufferSize => do
    return { o with bufferSizes := o.bufferSizes ++ (← readList readCount setting value) }
  | .operation => do
    let values ← readList (readName Operation.ofText) setting value
    return { o with operations := o.operations ++ values }
  | .warmupIterations => do
    return { o with warmupIterations := ← readOnce readCount o.warmupIterations setting value }
  | .measurementIterations => do
    let value ← readOnce readCount o.measurementIterations setting value
    return { o with measurementIterations := value }
  | .iterationTime => do
    return { o with iterationTime := ← readOnce readText o.iterationTime setting value }
  | .trials => do return { o with trials := ← readOnce readCount o.trials setting value }
  | .cpuCores => do return { o with cpuCores := ← readOnce readText o.cpuCores setting value }
  | .jsonOutput => do
    return { o with jsonOutput := ← readOnce readPath o.jsonOutput setting value }
  | .logLevel => do return { o with logLevel := ← readOnce readText o.logLevel setting value }

/-- Whether a switch is on. -/
def isOn (o : Options) : Switch → Bool
  | .compactJson => o.compactJson
  | .showPercentiles => o.showPercentiles
  | .list => o.list
  | .dryRun => o.dryRun

/-- **The options with a switch turned on.** -/
def turnOn (o : Options) (switch : Switch) : Except UsageError Options :=
  if o.isOn switch then .error (.givenAgain (.switch switch))
  else
    match switch with
    | .compactJson => .ok { o with compactJson := true }
    | .showPercentiles => .ok { o with showPercentiles := true }
    | .list => .ok { o with list := true }
    | .dryRun => .ok { o with dryRun := true }

end Options

end DivisionBenchmark.CommandLine

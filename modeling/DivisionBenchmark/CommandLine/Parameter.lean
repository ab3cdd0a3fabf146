/-!
# Parameters of the command line

What can be given on the command line: settings, which take a value, switches, which do not, and
the requests for help and for the version. Every parameter has a long name, and some have a letter.

Main definitions:

* `DivisionBenchmark.CommandLine.Parameter`: the parameters;
* `DivisionBenchmark.CommandLine.Parameter.ofLong?`,
  `DivisionBenchmark.CommandLine.Parameter.ofLetter?`: the parameter of a name or a letter;
* `DivisionBenchmark.CommandLine.Parameter.display`: a parameter as messages name it.
-/

namespace DivisionBenchmark.CommandLine

/-- **A parameter that takes a value.** -/
inductive Setting where
  /-- The configuration file. -/
  | config
  /-- Divisor types to sweep. -/
  | divisorType
  /-- Buffer sizes to sweep. -/
  | bufferSize
  /-- Operations to measure. -/
  | operation
  /-- The number of warm-up iterations. -/
  | warmupIterations
  /-- The number of measured iterations. -/
  | measurementIterations
  /-- The time of an iteration. -/
  | iterationTime
  /-- The number of trials. -/
  | trials
  /-- The cores to pin to. -/
  | cpuCores
  /-- The file of the JSON report. -/
  | jsonOutput
  /-- What is logged. -/
  | logLevel
  deriving DecidableEq, Repr

/-- **A parameter that takes no value.** -/
inductive Switch where
  /-- The JSON report stands on a single line. -/
  | compactJson
  /-- Latency percentiles are shown. -/
  | showPercentiles
  /-- The operations are listed and nothing else is done. -/
  | list
  /-- The configuration is validated and the plan shown, and nothing else is done. -/
  | dryRun
  deriving DecidableEq, Repr

/-- **A parameter.** -/
inductive Parameter where
  /-- A setting, which takes a value. -/
  | setting (s : Setting)
  /-- A switch, which takes none. -/
  | switch (s : Switch)
  /-- The request for help. -/
  | help
  /-- The request for the version. -/
  | version
  deriving DecidableEq, Repr

/-- The long name of a setting, and what its value is called. -/
def Setting.names : Setting → String × String
  | .config => ("config", "CONFIG")
  | .divisorType => ("divisor-type", "DIVISOR_TYPES")
  | .bufferSize => ("buffer-size", "BUFFER_SIZES")
  | .operation => ("operation", "OPERATIONS")
  | .warmupIterations => ("warmup-iterations", "WARMUP_ITERATIONS")
  | .measurementIterations => ("measurement-iterations", "MEASUREMENT_ITERATIONS")
  | .iterationTime => ("iteration-time", "ITERATION_TIME")
  | .trials => ("trials", "TRIALS")
  | .cpuCores => ("cpu-cores", "CPU_CORES")
  | .jsonOutput => ("json-output", "JSON_OUTPUT")
  | .logLevel => ("log-level", "LOG_LEVEL")

/-- The long name of a switch. -/
def Switch.long : Switch → String
  | .compactJson => "compact-json"
  | .showPercentiles => "show-percentiles"
  | .list => "list"
  | .dryRun => "dry-run"

namespace Parameter

/-- The parameters, in the order in which help shows them. -/
def all : List Parameter :=
  [.setting .config, .setting .divisorType, .setting .bufferSize, .setting .operation,
    .setting .warmupIterations, .setting .measurementIterations, .setting .iterationTime,
    .setting .trials, .setting .cpuCores, .setting .jsonOutput, .switch .compactJson,
    .switch .showPercentiles, .switch .list, .switch .dryRun, .setting .logLevel, .help, .version]

/-- The long name of a parameter, without the hyphens before it. -/
def long : Parameter → String
  | .setting s => s.names.1
  | .switch s => s.long
  | .help => "help"
  | .version => "version"

/-- The letter of a parameter, if it has one. -/
def letter? : Parameter → Option Char
  | .setting .config => some 'c'
  | .setting .divisorType => some 'D'
  | .setting .bufferSize => some 'b'
  | .setting .operation => some 'o'
  | .setting .warmupIterations => some 'w'
  | .setting .measurementIterations => some 'i'
  | .setting .iterationTime => some 'r'
  | .setting .trials => some 't'
  | .help => some 'h'
  | .version => some 'V'
  | _ => none

/-- The parameter of a long name. -/
def ofLong? (name : String) : Option Parameter := all.find? fun p => p.long == name

/-- The parameter of a letter. -/
def ofLetter? (letter : Char) : Option Parameter := all.find? fun p => p.letter? == some letter

/-- What stands for the value of a parameter, if it takes one. -/
def placeholder : Parameter → String
  | .setting s => " <" ++ s.names.2 ++ ">"
  | _ => ""

/-- **A parameter as messages name it.** -/
def display (p : Parameter) : String := "--" ++ p.long ++ p.placeholder

/-- What help tells of a parameter. -/
def description : Parameter → String
  | .setting .config => "TOML configuration file (CLI options override its values)"
  | .setting .divisorType =>
    "Divisor types to sweep: mixed, positive, negative (comma-separated)"
  | .setting .bufferSize => "Operand buffer sizes to sweep (comma-separated)"
  | .setting .operation =>
    "Operations to measure (comma-separated, e.g. divideUnsigned,remainderUnsigned)"
  | .setting .warmupIterations => "Warmup iterations per trial"
  | .setting .measurementIterations => "Measured iterations per trial"
  | .setting .iterationTime => "Wall time of one iteration (e.g. 200ms, 1s, 500us)"
  | .setting .trials => "Independent trials per operation"
  | .setting .cpuCores => "CPU cores to pin trial threads to (e.g. \"2\" or \"0,2-3\")"
  | .setting .jsonOutput => "JSON report file path"
  | .switch .compactJson => "Write the JSON report on a single line"
  | .switch .showPercentiles => "Show per-invocation latency percentiles"
  | .switch .list => "List available operations and exit"
  | .switch .dryRun => "Validate configuration and print the plan without measuring"
  | .setting .logLevel =>
    "Log level (trace, debug, info, warn, error); RUST_LOG takes precedence"
  | .help => "Print help"
  | .version => "Print version"

end Parameter

end DivisionBenchmark.CommandLine

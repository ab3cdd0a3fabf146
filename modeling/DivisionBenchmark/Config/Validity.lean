import DivisionBenchmark.Config.Settings
import DivisionBenchmark.Machine.CoreList
import DivisionBenchmark.Machine.Files

/-!
# Valid configurations

What a configuration must fulfil before anything is measured. The groups of settings are looked at
one after the other, each from its first setting to its last, and the first fault found is the one
that is reported.

Main definitions:

* `DivisionBenchmark.Config.Invalid`: what can be wrong with a configuration;
* `DivisionBenchmark.Config.validate`: whether a configuration can be run on a machine.

What passes is said by the lemmas at the end (`validate_eq_ok_iff`).
-/

namespace DivisionBenchmark

/-- **What is wrong with a configuration.** -/
inductive Config.Invalid where
  /-- There is no divisor type to sweep. -/
  | noDivisorType
  /-- There is no buffer size to sweep. -/
  | noBufferSize
  /-- A buffer size is zero. -/
  | zeroBufferSize
  /-- There is no operation to measure. -/
  | noOperation
  /-- No iteration would be measured. -/
  | noMeasurementIteration
  /-- There would be no trial. -/
  | noTrial
  /-- An iteration would take no time. -/
  | noIterationTime
  /-- The cores to pin to are not a core list. -/
  | badCores (cause : CoreList.Error)
  /-- The cores to pin to are too many to be kept together. -/
  | faulted (fault : Fault)
  /-- A core to pin to is none of the machine's. -/
  | missingCore (core available : Nat)
  /-- The report would go to a file without a name. -/
  | emptyReportPath
  /-- The report would go to a directory. -/
  | reportIsDirectory (path : String)
  deriving DecidableEq, Repr

namespace Config.Invalid

/-- The error of the benchmark itself that is behind a fault, if one is. -/
def benchmarkError? : Config.Invalid → Option BenchmarkError
  | .zeroBufferSize => some (.invalidBufferSize 0)
  | _ => none

/-- The texts a fault is reported with, the outermost first. -/
def chain : Config.Invalid → List String
  | .noDivisorType => ["at least one divisor type is required"]
  | .noBufferSize => ["at least one buffer size is required"]
  | .zeroBufferSize => [(BenchmarkError.invalidBufferSize 0).message]
  | .noOperation => ["at least one operation is required"]
  | .noMeasurementIteration => ["measurement_iterations must be at least 1"]
  | .noTrial => ["trials must be at least 1"]
  | .noIterationTime => ["iteration_time_ms must be at least 1"]
  | .badCores cause => "Invalid cpu_cores" :: cause.chain
  | .faulted fault => [fault.message]
  | .missingCore core available =>
    [s!"cpu core {core} does not exist ({available} cores available)"]
  | .emptyReportPath => ["json_output path cannot be empty"]
  | .reportIsDirectory path => [s!"json_output must be a file, got directory {path}"]

end Config.Invalid

/-- Whether a workload can be measured. -/
def Workload.validate (w : Workload) : Except Config.Invalid Unit :=
  if w.divisorTypes.isEmpty then .error .noDivisorType
  else if w.bufferSizes.isEmpty then .error .noBufferSize
  else if 0 ∈ w.bufferSizes then .error .zeroBufferSize
  else if w.operations.isEmpty then .error .noOperation
  else .ok ()

/-- Whether the cores to pin to are cores of a machine with so many. -/
def RunnerSettings.validateCores (r : RunnerSettings) (available : Nat) :
    Except Config.Invalid Unit :=
  match r.cpuCores with
  | none => .ok ()
  | some text =>
    match CoreList.read text with
    | .error (.faulted fault) => .error (.faulted fault)
    | .error cause => .error (.badCores cause)
    | .ok rows =>
      match CoreList.leastFrom? available rows with
      | some core => .error (.missingCore core available)
      | none => .ok ()

/-- Whether operations can be timed as these settings say, on a machine with so many cores. -/
def RunnerSettings.validate (r : RunnerSettings) (available : Nat) : Except Config.Invalid Unit :=
  if r.measurementIterations = 0 then .error .noMeasurementIteration
  else if r.trials = 0 then .error .noTrial
  else if r.iterationMillis = 0 then .error .noIterationTime
  else r.validateCores available

/-- Whether a run can be reported as these settings say. -/
def ReportSettings.validate (r : ReportSettings) (files : Files) : Except Config.Invalid Unit :=
  match r.jsonOutput with
  | none => .ok ()
  | some path =>
    if path = "" then .error .emptyReportPath
    else if files.isDirectory path then .error (.reportIsDirectory path)
    else .ok ()

/-- **Whether a configuration can be run on a machine.** -/
def Config.validate (c : Config) (host : Host) : Except Config.Invalid Unit := do
  c.workload.validate
  c.runner.validate host.cores
  c.report.validate host.files

/-! ### What is valid -/

/-- A workload can be measured where it lists something of each kind and no buffer is empty. -/
theorem Workload.validate_eq_ok_iff {w : Workload} :
    w.validate = .ok () ↔
      w.divisorTypes ≠ [] ∧ w.bufferSizes ≠ [] ∧ 0 ∉ w.bufferSizes ∧ w.operations ≠ [] := by
  simp only [validate, List.isEmpty_iff]
  split <;> (try split) <;> (try split) <;> (try split) <;> simp_all

/-- The cores to pin to are cores of a machine where none are named, or where they are a core list
and the machine has them all. -/
theorem RunnerSettings.validateCores_eq_ok_iff {r : RunnerSettings} {available : Nat} :
    r.validateCores available = .ok () ↔
      ∀ text, r.cpuCores = some text →
        ∃ cores, CoreList.parse text = .ok cores ∧ ∀ core ∈ cores, core < available := by
  unfold validateCores
  cases r.cpuCores with
  | none => simp
  | some text =>
    simp only [Option.some.injEq, forall_eq']
    rw [CoreList.parse]
    cases CoreList.read text with
    | error cause => cases cause <;> simp [Except.map]
    | ok rows =>
      simp only [Except.map, Except.ok.injEq, exists_eq_left', ← CoreList.leastFrom?_eq_none_iff]
      cases CoreList.leastFrom? available rows <;> simp

/-- Operations can be timed where nothing is zero but the warm-up, and the cores are there. -/
theorem RunnerSettings.validate_eq_ok_iff {r : RunnerSettings} {available : Nat} :
    r.validate available = .ok () ↔
      r.measurementIterations ≠ 0 ∧ r.trials ≠ 0 ∧ r.iterationMillis ≠ 0 ∧
        r.validateCores available = .ok () := by
  unfold validate
  split <;> (try split) <;> (try split) <;> simp_all

/-- **A configuration can be run where each of its groups of settings can.** -/
theorem Config.validate_eq_ok_iff {c : Config} {host : Host} :
    c.validate host = .ok () ↔
      c.workload.validate = .ok () ∧ c.runner.validate host.cores = .ok () ∧
        c.report.validate host.files = .ok () := by
  unfold validate
  cases c.workload.validate <;> cases c.runner.validate host.cores <;>
    simp [bind, Except.bind]

end DivisionBenchmark

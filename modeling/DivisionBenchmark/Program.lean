import DivisionBenchmark.CommandLine.Help
import DivisionBenchmark.CommandLine.LogFilter
import DivisionBenchmark.CommandLine.Overrides
import DivisionBenchmark.CommandLine.Parsing
import DivisionBenchmark.Config.Validity
import DivisionBenchmark.Report.Delivery
import DivisionBenchmark.Report.Plan

/-!
# The program

A run of the program, from its command line to what it leaves. It is made in two parts, with the
measurement between them: the first reads the command line, settles the configuration and shows the
plan; the second shows and writes the results. Between the two, everything is decided but what the
clock says.

Main definitions:

* `DivisionBenchmark.Surroundings`: what a run finds;
* `DivisionBenchmark.Outcome`: what it leaves;
* `DivisionBenchmark.Program.prepare`, `DivisionBenchmark.Program.conclude`: its two parts;
* `DivisionBenchmark.Program.run`: the whole run, under a clock.
-/

namespace DivisionBenchmark

/-- **What a run of the program finds.** -/
structure Surroundings where
  /-- The arguments on the command line. -/
  arguments : List String
  /-- What is logged, where the environment sets it for this program. -/
  logLevel : Option String
  /-- What is logged, where the environment sets it for every program. -/
  sharedLogFilter : Option String
  /-- The machine. -/
  host : Host
  /-- The time at which the run starts. -/
  timestamp : String
  /-- The bytes that the result of one measurement takes in memory. -/
  resultSize : Nat

/-- **What a run of the program leaves.** -/
structure Outcome where
  /-- The exit status. -/
  status : Nat
  /-- What was shown. -/
  output : String
  /-- What the run ended with, where it ended with an error. -/
  error : Option String
  /-- The file that was written, by its path and its text. -/
  file : Option (String × String)
  deriving DecidableEq, Repr

namespace Outcome

/-- A run that reached its end. -/
def success (output : String) (file : Option (String × String)) : Outcome :=
  ⟨0, output, none, file⟩

/-- A run that ended with an error, given the texts the error is reported with. -/
def failed (output : String) (chain : List String) : Outcome := ⟨1, output, chain.head?, none⟩

/-- A run whose command line was misused. -/
def misused : Outcome := ⟨2, "", none, none⟩

/-- A run that was abandoned. -/
def abandoned (output : String) : Outcome := ⟨101, output, none, none⟩

end Outcome

/-- **What is left to be measured.** -/
structure Session where
  /-- The configuration. -/
  config : Config
  /-- How operations are timed. -/
  runner : Runner
  /-- What was shown so far. -/
  output : String

/-- The measurement of a session, where a result takes so many bytes. -/
def Session.measure (session : Session) (resultSize : Nat) :
    Timed (Except Failure (List Measurement)) :=
  (session.runner.runSweep session.config.workload resultSize).run

namespace Program

/-- Whether what is to be logged can be understood. -/
def checkLogging (shared : Option String) (level : String) : Except LogFilter.Flaw Unit :=
  -- what is set for every program comes first, but may be malformed
  match shared.map LogFilter.check with
  | none | some (.error .malformed) => LogFilter.check level
  | some answer => answer

/-- What is shown before anything is measured: the first line, an empty one, and the plan. -/
def introduction (plan : String) : String := bannerLine ++ "\n" ++ plan

/-- What is shown in place of a measurement. -/
def dryRunNotice : String := "\nDry run mode - configuration validated successfully\n"

/-- A run with a valid configuration, up to what is left to be measured. -/
def announce (config : Config) (dryRun : Bool) : Except Outcome Session :=
  match config.plan with
  | .error _ => .error (.abandoned (introduction ""))
  | .ok plan =>
    if dryRun then .error (.success (introduction plan ++ dryRunNotice) none)
    else
      let output := introduction plan ++ "\n"
      match Runner.ofSettings config.runner with
      | .error (.faulted _) => .error (.abandoned output)
      | .error error => .error (.failed output ("Invalid cpu_cores" :: error.chain))
      | .ok runner => .ok ⟨config, runner, output⟩

/-- A run with these options, up to what is left to be measured. -/
def settle (host : Host) (options : CommandLine.Options) : Except Outcome Session :=
  match options.validate with
  | .error error => .error (.failed "" [error.message])
  | .ok _ =>
    match options.effective host.files with
    | .error (.faulted _) => .error (.abandoned "")
    | .error error => .error (.failed "" error.chain)
    | .ok config =>
      match config.validate host with
      | .error (.faulted _) => .error (.abandoned "")
      | .error error => .error (.failed "" ("Configuration validation failed" :: error.chain))
      | .ok _ => announce config options.dryRun

/-- **A run up to what is left to be measured**, or to its end where nothing is. -/
def prepare (s : Surroundings) : Except Outcome Session :=
  match CommandLine.parse s.logLevel s.arguments with
  | .error .help => .error (.success (CommandLine.helpText s.logLevel) none)
  | .error .version => .error (.success CommandLine.versionText none)
  | .error (.misused _) => .error .misused
  | .ok options =>
    match checkLogging s.sharedLogFilter (options.logLevel.getD CommandLine.defaultLogLevel) with
    | .error .malformed => .error (.failed "" ["Failed to initialize logging"])
    | .error .torn => .error (.abandoned "")
    | .ok _ =>
      if options.list then .error (.success operationList none) else settle s.host options

/-- **A run from its measurement to its end.** -/
def conclude (s : Surroundings) (session : Session)
    (measured : Except Failure (List Measurement)) : Outcome :=
  match measured with
  | .error (.rejected error) => .failed session.output [error.message]
  | .error (.faulted _) => .abandoned session.output
  | .ok results =>
    let delivery := deliver s.host.files s.timestamp session.config results
    let output := session.output ++ "\n" ++ delivery.output
    match delivery.file with
    | .ok file => .success output file
    | .error (.faulted _) => .abandoned output
    | .error error => .failed output error.chain

/-- **A run of the program**, under a clock. -/
def run (s : Surroundings) (clock : Nat → UInt64) : Outcome :=
  match prepare s with
  | .error outcome => outcome
  | .ok session => conclude s session ((session.measure s.resultSize).run clock)

end Program

end DivisionBenchmark

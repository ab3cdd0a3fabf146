import DivisionBenchmark.Machine.Files
import DivisionBenchmark.Report.Document
import DivisionBenchmark.Report.Table

/-!
# Delivering a report

The table of the results is shown, and the JSON report goes to its file where one is asked for. The
table is shown even where the file cannot be written.

Main definitions: `DivisionBenchmark.Delivery` and `DivisionBenchmark.deliver`.
-/

namespace DivisionBenchmark

/-- **What can go wrong with a report.** -/
inductive ReportError where
  /-- Its file cannot be created. -/
  | uncreated (path : String) (cause : OsError)
  /-- It cannot be computed. -/
  | faulted (fault : Fault)
  deriving DecidableEq, Repr

/-- The texts an error is reported with, the outermost first. -/
def ReportError.chain : ReportError → List String
  | .uncreated path cause => [s!"Failed to create JSON output: {path}", cause.message]
  | .faulted fault => [fault.message]

/-- **What is shown and written of the results.** -/
structure Delivery where
  /-- What is shown. -/
  output : String
  /-- The file that is written, by its path and its text, if one is asked for. -/
  file : Except ReportError (Option (String × String))

/-- The file of a report, by its path and its text, if one is asked for. It is created only after
its text is known. -/
def reportFile (files : Files) (timestamp : String) (config : Config)
    (results : List Measurement) : Except ReportError (Option (String × String)) :=
  match config.report.jsonOutput with
  | none => .ok none
  | some path => do
    let text ← (reportText timestamp config results).mapError .faulted
    (files.create path).mapError (.uncreated path)
    return some (path, text)

/-- **The results as a configuration asks for them.** -/
def deliver (files : Files) (timestamp : String) (config : Config) (results : List Measurement) :
    Delivery :=
  match resultsTable results config.report.showPercentiles with
  | .ok table => ⟨table, reportFile files timestamp config results⟩
  | .error fault => ⟨"", .error (.faulted fault)⟩

end DivisionBenchmark

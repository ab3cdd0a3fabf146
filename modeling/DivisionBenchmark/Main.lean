import DivisionBenchmark.Program
import DivisionBenchmark.Time.Timestamp
import Std.Time.DateTime.Timestamp

/-!
# The command

The program on a real machine. What a run finds is looked up here, and what it leaves is put out;
everything between the two is `DivisionBenchmark.Program`.
-/

namespace DivisionBenchmark.Command

/-- Why the system refuses a path, from the error that says so. -/
def refusal (error : IO.Error) : OsError :=
  match error with
  | .noFileOrDirectory .. => .notFound
  | .inappropriateType .. => .isDirectory
  | e =>
    let text := toString e
    if (text.splitOn "error code: 20").length > 1 then .notDirectory else .other 5 text

/-- What comes of something that is done with a path. -/
def attempt {α : Type} (action : IO α) : IO (Except OsError α) := do
  try return .ok (← action)
  catch e => return .error (refusal e)

/-- Whether a path leads to a directory. -/
def leadsToDirectory (path : String) : IO Bool := do
  match ← attempt (IO.FS.readFile path) with
  | .error .isDirectory => return true
  | _ => return false

/-- The number of processor cores this process may use. -/
def coreCount : IO Nat := do
  match ← attempt (IO.FS.readFile "/proc/self/status") with
  | .error _ => return 1
  | .ok status =>
    let line := (status.splitOn "\n").find? (·.startsWith "Cpus_allowed_list:")
    match (line.map fun l => CoreList.parse ((l.splitOn ":").getLastD "")) with
    | some (.ok cores) => return cores.length
    | _ => return 1

/-- The time as text. -/
def now : IO String := do
  let moment ← Std.Time.Timestamp.now
  let nanos := moment.toNanosecondsSinceUnixEpoch.val.toNat
  return Timestamp.text (nanos / 1000000000) (nanos % 1000000000)

/-- The bytes of one result: those of its statistics, its trial and its operation. -/
def resultBytes : Nat := 160

/-- What a run finds. Only the files that its command line names are looked at. -/
def surroundings (arguments : List String) : IO Surroundings := do
  let logLevel ← IO.getEnv CommandLine.logVariable
  let sharedLogFilter ← IO.getEnv "RUST_LOG"
  let options := (CommandLine.parse logLevel arguments).toOption.getD {}
  let contents ← match options.config with
    | some path => attempt (IO.FS.readFile path)
    | none => pure (.error .notFound)
  let files : Files := ⟨fun _ => contents, fun _ => false, fun _ => .ok ()⟩
  let report := (options.effective files).toOption.bind (·.report.jsonOutput)
  let isDirectory ← match report with
    | some path => leadsToDirectory path
    | none => pure false
  return {
    arguments, logLevel, sharedLogFilter
    host := ⟨← coreCount, { files with isDirectory := fun _ => isDirectory }⟩
    timestamp := ← now
    resultSize := resultBytes }

/-- The value of a computation under the machine's clock. -/
def perform {α : Type} : Timed α → IO α
  | .done value => return value
  | .reading next => do
    let nanos ← IO.monoNanosNow
    perform (next (UInt64.ofNat nanos))

/-- The same surroundings, in which the file of the report was tried to be created. -/
def withReport (s : Surroundings) (config : Config) : IO Surroundings := do
  match config.report.jsonOutput with
  | none => return s
  | some path =>
    let created ← attempt (IO.FS.writeFile path "")
    return { s with host.files.create := fun _ => created }

/-- Puts out what a run leaves, but for what was shown already. -/
def finish (outcome : Outcome) (shown : String) : IO UInt32 := do
  IO.print (String.ofList (outcome.output.toList.drop shown.length))
  if let some (path, text) := outcome.file then IO.FS.writeFile path text
  if let some error := outcome.error then IO.eprintln ("Error: " ++ error)
  if outcome = .misused then
    IO.eprintln "error: the command line cannot be understood; for more information try --help"
  return UInt32.ofNat outcome.status

end DivisionBenchmark.Command

open DivisionBenchmark in
/-- **The command.** -/
def main (arguments : List String) : IO UInt32 := do
  let s ← Command.surroundings arguments
  match Program.prepare s with
  | .error outcome => Command.finish outcome ""
  | .ok session =>
    IO.print session.output
    (← IO.getStdout).flush
    let measured ← Command.perform (session.measure s.resultSize)
    let s ← match measured with
      | .ok _ => Command.withReport s session.config
      | .error _ => pure s
    Command.finish (Program.conclude s session measured) session.output

import DivisionBenchmark.Config.Decoding
import DivisionBenchmark.Machine.Files
import DivisionBenchmark.Time.IterationTime

/-!
# Loading configurations

Where a configuration comes from: a TOML file.

Main definitions:

* `DivisionBenchmark.Config.LoadError`: what can go wrong on the way to a configuration;
* `DivisionBenchmark.Config.load`: the configuration of a file.
-/

namespace DivisionBenchmark

/-- **What can go wrong on the way to a configuration.** -/
inductive Config.LoadError where
  /-- The file cannot be read. -/
  | unreadable (path : String) (cause : OsError)
  /-- The file is no description of a configuration. -/
  | undecodable (path : String) (cause : Config.DecodeError)
  /-- The iteration time that replaces the file's is no time. -/
  | badIterationTime (cause : IterationTime.Error)
  /-- The iteration time that replaces the file's has no 64-bit number of milliseconds. -/
  | faulted (fault : Fault)
  deriving DecidableEq, Repr

/-- The texts an error is reported with, the outermost first. -/
def Config.LoadError.chain : Config.LoadError → List String
  | .unreadable path cause => [s!"Failed to read config file: {path}", cause.message]
  | .undecodable path cause => s!"Failed to parse config file: {path}" :: cause.chain
  | .badIterationTime cause => "Invalid iteration time" :: cause.chain
  | .faulted fault => [fault.message]

/-- **The configuration of a file.** -/
def Config.load (files : Files) (path : String) : Except Config.LoadError Config := do
  let text ← (files.read path).mapError (.unreadable path)
  (Config.ofToml text).mapError (.undecodable path)

end DivisionBenchmark

import DivisionBenchmark.Config.Settings
import DivisionBenchmark.Number.Shortest
import DivisionBenchmark.Text.Quoted
import DivisionBenchmark.Toml.Document

/-!
# Configurations in TOML

How a configuration is read from a TOML document. A group of settings is a table, or an array of
its settings in their order; what is left out keeps its own value, and unknown keys are passed
over. The settings of a table are read in the order in which they stand there, and the first fault
is the one that is reported.

Main definitions:

* `DivisionBenchmark.Config.DecodeError`: what can be wrong with a document;
* `DivisionBenchmark.Config.ofToml`: the configuration that a text describes.
-/

namespace DivisionBenchmark

/-- **What is wrong with a document.** -/
inductive Config.DecodeError where
  /-- It is no document. -/
  | malformed
  /-- A value is of another type than the setting. -/
  | invalidType (found expected : String)
  /-- A number is none that the setting can have. -/
  | invalidNumber (found : Int) (expected : String)
  /-- A name is none of those the setting can have. -/
  | unknownName (found : String) (expected : List String)
  /-- A name is not written as one. -/
  | notAName
  deriving DecidableEq, Repr

namespace Config.DecodeError

/-- A name between grave accents. -/
def marked (name : String) : String := "`" ++ name ++ "`"

/-- What is said of a fault, where something is. -/
def detail? : Config.DecodeError → Option String
  | .malformed | .notAName => none
  | .invalidType found expected => some s!"invalid type: {found}, expected {expected}"
  | .invalidNumber found expected =>
    some s!"invalid value: integer {marked (toString found)}, expected {expected}"
  | .unknownName found expected =>
    let names := ", ".intercalate (expected.map marked)
    some s!"unknown variant {marked found}, expected one of {names}"

/-- The texts a fault is reported with, the outermost first. -/
def chain (error : Config.DecodeError) : List String :=
  "Failed to parse TOML configuration" :: error.detail?.toList

end Config.DecodeError

namespace Toml.Value

open Config (DecodeError)

/-- A binary64 number with all its places. -/
def floatText (x : Float) : String :=
  (Binary64.ofFloat x).text fun magnitude => (magnitude.shortest .up).positionalReal

/-- What a value is called where another was expected. -/
def describe : Value → String
  | .string text => "string " ++ Text.quoted text
  | .integer n => "integer " ++ DecodeError.marked (toString n)
  | .float x => "floating point " ++ DecodeError.marked (floatText x)
  | .boolean b => "boolean " ++ DecodeError.marked (toString b)
  | .array _ _ => "sequence"
  | .table _ _ | .dateTime => "map"

/-- The fault of a value that is of another type. -/
def mistyped {α : Type} (v : Value) (expected : String) : Except DecodeError α :=
  .error (.invalidType v.describe expected)

/-- The 64-bit count that a value is. -/
def toCount (expected : String) : Value → Except DecodeError UInt64
  | .integer n =>
    if 0 ≤ n then .ok (UInt64.ofNat n.toNat) else .error (.invalidNumber n expected)
  | v => v.mistyped expected

/-- The text that a value is. -/
def toText (expected : String) : Value → Except DecodeError String
  | .string text => .ok text
  | v => v.mistyped expected

/-- The truth value that a value is. -/
def toBoolean : Value → Except DecodeError Bool
  | .boolean b => .ok b
  | v => v.mistyped "a boolean"

/-- The items of the array that a value is. -/
def toItems {α : Type} (item : Value → Except DecodeError α) : Value → Except DecodeError (List α)
  | .array _ items => items.mapM item
  | v => v.mistyped "a sequence"

/-- Whether a value holds nothing. -/
def isEmpty : Value → Bool
  | .array _ items => items.isEmpty
  | .table _ fields => fields.isEmpty
  | _ => false

/-- What a name names. -/
def named {α : Type} (ofName? : String → Option α) (names : List String) (name : String) :
    Except DecodeError α :=
  match ofName? name with
  | some a => .ok a
  | none => .error (.unknownName name names)

/-- What the name that a value is names. A name is a text, or the only key of a table with nothing
under it. -/
def toNamed {α : Type} (ofName? : String → Option α) (names : List String) :
    Value → Except DecodeError α
  | .string name => named ofName? names name
  | .table _ [(name, content)] => do
    let a ← named ofName? names name
    if content.isEmpty then .ok a else .error .notAName
  | _ => .error .notAName

/-- **A setting of a group**: its key, and what a value under it does to the group. -/
abbrev Setting (σ : Type) := String × (Value → σ → Except DecodeError σ)

/-- A group with the settings of a table, in the order of the table. -/
def ofFields {σ : Type} (settings : List (Setting σ)) (group : σ) (fields : Fields) :
    Except DecodeError σ :=
  fields.foldlM (fun group (key, v) =>
    match settings.find? fun setting => setting.1 == key with
    | some setting => setting.2 v group
    | none => .ok group) group

/-- A group with the settings of a value: those of a table, or the items of an array one for each
setting in their order. -/
def toGroup {σ : Type} (expected : String) (settings : List (Setting σ)) (group : σ) :
    Value → Except DecodeError σ
  | .table _ fields => ofFields settings group fields
  | .array _ items =>
    -- items without a setting are passed over, and settings without an item keep their value
    (settings.zip items).foldlM (fun group (setting, v) => setting.2 v group) group
  -- a date is a table with a key of its own, which no setting has
  | .dateTime => .ok group
  | v => v.mistyped expected

/-- The settings of a workload. -/
def workloadSettings : List (Setting Workload) := [
  ("divisor_types", fun v w => do
    let kinds ← v.toItems (toNamed DivisorType.ofName? (DivisorType.all.map (·.name)))
    return { w with divisorTypes := kinds }),
  ("buffer_sizes", fun v w => do
    return { w with bufferSizes := ← v.toItems (toCount "usize") }),
  ("operations", fun v w => do
    let operations ← v.toItems (toNamed Operation.ofName? (Operation.all.map (·.name)))
    return { w with operations })]

/-- The settings of a runner. -/
def runnerSettings : List (Setting RunnerSettings) := [
  ("warmup_iterations", fun v r => do
    return { r with warmupIterations := ← v.toCount "usize" }),
  ("measurement_iterations", fun v r => do
    return { r with measurementIterations := ← v.toCount "usize" }),
  ("iteration_time_ms", fun v r => do
    return { r with iterationMillis := ← v.toCount "u64" }),
  ("trials", fun v r => do
    return { r with trials := ← v.toCount "usize" }),
  ("cpu_cores", fun v r => do
    return { r with cpuCores := some (← v.toText "a string") })]

/-- The settings of a report. -/
def reportSettings : List (Setting ReportSettings) := [
  ("json_output", fun v r => do
    return { r with jsonOutput := some (← v.toText "path string") }),
  ("pretty_json", fun v r => do
    return { r with prettyJson := ← v.toBoolean }),
  ("show_percentiles", fun v r => do
    return { r with showPercentiles := ← v.toBoolean })]

/-- The groups of a configuration. -/
def configSettings : List (Setting Config) := [
  ("workload", fun v c => do
    let workload ← v.toGroup "struct WorkloadConfig" workloadSettings {}
    return { c with workload }),
  ("runner", fun v c => do
    let runner ← v.toGroup "struct RunnerConfig" runnerSettings {}
    return { c with runner }),
  ("output", fun v c => do
    let report ← v.toGroup "struct OutputConfig" reportSettings {}
    return { c with report })]

end Toml.Value

/-- **The configuration that a text describes.** -/
def Config.ofToml (text : String) : Except Config.DecodeError Config :=
  match Toml.parse text with
  | some fields => Toml.Value.ofFields Toml.Value.configSettings Config.default fields
  | none => .error .malformed

end DivisionBenchmark

import DivisionBenchmark.Measurement.Runner
import DivisionBenchmark.Text.Columns

/-!
# The results table

The results of a sweep as a table, a line for each measurement, and on request the latency
percentiles below it. Scores have three places.

Main definitions:

* `DivisionBenchmark.resultsTable`: the table;
* `DivisionBenchmark.operationList`: the operations there are, a line for each.
-/

namespace DivisionBenchmark

/-- The percentiles that are shown, as they are written and as they are computed. -/
def shownPercentiles : List (String × Float) :=
  [("50", 50), ("90", 90), ("99", 99), ("99.9", 99.9)]

/-- A score with three places; zero where there is none. -/
def scoreText (score : Option Float) : String := (Binary64.ofFloat (score.getD 0)).fixed 3

/-- The cells of a line of the table, filled up to the widths of their columns. -/
def tableLine (nameWidth : Nat) (name divisorType bufferSize mode count score least greatest unit :
    String) : String :=
  "  ".intercalate [Text.alignLeft nameWidth name, Text.alignRight 13 divisorType,
    Text.alignRight 12 bufferSize, Text.alignRight 4 mode, Text.alignRight 4 count,
    Text.alignRight 12 score, Text.alignRight 12 least, Text.alignRight 10 greatest,
    Text.alignRight 9 unit]

/-- The width of the column of names: that of the longest name, or of its heading. -/
def nameWidth (results : List Measurement) : Nat :=
  results.foldl (fun width m => max width m.operation.name.length) "Benchmark".length

/-- The line of a measurement. -/
def Measurement.line (m : Measurement) (nameWidth : Nat) : String :=
  tableLine nameWidth m.operation.name m.trial.divisorType.name m.trial.bufferSize.toNat.repr
    "avgt" m.statistics.scores.size.repr (scoreText m.statistics.meanScore)
    (scoreText m.statistics.minScore) (scoreText m.statistics.maxScore) "ns/op"

/-- The line of the latencies of a measurement. -/
def Measurement.latencyLine (m : Measurement) (nameWidth : Nat) : Except Fault String := do
  let percentiles ← shownPercentiles.mapM fun (text, percentile) => do
    -- of no latency at all every percentile is zero
    let latency := (← m.statistics.latency.percentile percentile).getD Duration.zero
    return "p" ++ text ++ "=" ++ latency.toText
  let perElement := m.statistics.meanPerElement m.trial.bufferSize
  return "  " ++ Text.alignLeft nameWidth m.operation.name ++ " " ++
    Text.alignLeft 8 m.trial.divisorType.name ++ " " ++
    Text.alignRight 6 m.trial.bufferSize.toNat.repr ++ "  " ++ " ".intercalate percentiles ++
    "  (" ++ scoreText perElement ++ " ns/div, " ++
    rateText (rateOfNanos (perElement.getD 0)) ++ " div/s)"

/-- **The results as a table**, with the latency percentiles where they are asked for. -/
def resultsTable (results : List Measurement) (showPercentiles : Bool) :
    Except Fault String := do
  let width := nameWidth results
  let heading := tableLine width "Benchmark" "(divisorType)" "(bufferSize)" "Mode" "Cnt" "Score"
    "Min" "Max" "Units"
  let lines := heading :: results.map (·.line width)
  let latencies ←
    if showPercentiles ∧ ¬ results.isEmpty then do
      let lines ← results.mapM (·.latencyLine width)
      pure ("" :: "Invocation latency:" :: lines)
    else pure []
  return String.join ((lines ++ latencies).map (· ++ "\n"))

/-- A line on an operation. -/
def Operation.listing (operation : Operation) : String :=
  Text.alignLeft 32 operation.name ++
    if operation.usesRuntimeDivisor then " runtime divisor\n" else " constant divisor\n"

/-- **The operations there are**, a line for each. -/
def operationList : String := String.join (Operation.all.map (·.listing))

end DivisionBenchmark

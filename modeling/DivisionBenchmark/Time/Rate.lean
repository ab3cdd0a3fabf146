import DivisionBenchmark.Number.Binary64
import DivisionBenchmark.Time.Duration

/-!
# Times and rates as text

Durations and rates are shown to three magnitudes with two places, in the unit that suits them.

Main definitions:

* `DivisionBenchmark.Duration.toText`: a duration in nanoseconds, microseconds, milliseconds or
  seconds;
* `DivisionBenchmark.rateText`: a rate as it is, or in thousands, millions or thousand millions;
* `DivisionBenchmark.nanosPerOperation`, `DivisionBenchmark.rateOfNanos`: the time of one operation,
  and how many there are in a second.

A unit is chosen by the exact value; the number before it is rounded afterwards. The number is the
binary64 quotient of the nanoseconds by the length of the unit, itself rounded to two places.
-/

namespace DivisionBenchmark

/-! ### Durations -/

/-- The number of hundredths shown before a unit of so many nanoseconds. -/
def Duration.hundredths (d : Duration) (unitNanos : Nat) : Nat :=
  ((Dyadic.ofNat d.nanos).divNat unitNanos).units 2

/-- **A duration in the unit that suits it.** -/
def Duration.toText (d : Duration) : String :=
  if d.nanos < 1000 then d.nanos.repr ++ "ns"
  else if d.nanos < 1000000 then Dyadic.fixedText 2 (d.hundredths 1000) ++ "us"
  else if d.nanos < 1000000000 then Dyadic.fixedText 2 (d.hundredths 1000000) ++ "ms"
  else Dyadic.fixedText 2 (d.hundredths 1000000000) ++ "s"

/-! ### Rates -/

/-- **A rate in the magnitude that suits it.** What is no number falls to the last magnitude. -/
def rateText (rate : Float) : String :=
  if rate < 1e3 then (Binary64.ofFloat rate).fixed 0
  else if rate < 1e6 then (Binary64.ofFloat (rate / 1e3)).fixed 2 ++ "K"
  else if rate < 1e9 then (Binary64.ofFloat (rate / 1e6)).fixed 2 ++ "M"
  else (Binary64.ofFloat (rate / 1e9)).fixed 2 ++ "G"

/-- The average nanoseconds of an operation; zero where there was none. -/
def nanosPerOperation (elapsed : Duration) (operations : UInt64) : Float :=
  if operations = 0 then 0 else (Dyadic.ofNat elapsed.nanos).toFloat / operations.toFloat

/-- The operations in a second, given the nanoseconds of one; zero where that is not positive. -/
def rateOfNanos (nanos : Float) : Float :=
  if 0 < nanos then 1e9 / nanos else 0

end DivisionBenchmark

/-!
# Errors of a benchmark

What can go wrong in naming or running a benchmark, as far as the user is told about it by kind.

Main definitions:

* `DivisionBenchmark.BenchmarkError`: the causes;
* `DivisionBenchmark.BenchmarkError.message`: the text each is reported with.
-/

namespace DivisionBenchmark

/-- **Why a benchmark was not run to its end.** -/
inductive BenchmarkError where
  /-- No operation is called this; the text is kept as it was given. -/
  | unknownOperation (name : String)
  /-- No divisor type is called this; the text is kept as it was given. -/
  | unknownDivisorType (name : String)
  /-- A trial needs at least one operand pair. -/
  | invalidBufferSize (size : UInt64)
  /-- A trial was abandoned; the message is that of the fault. -/
  | trialPanicked (operation : String) (trial : Nat) (message : String)
  deriving DecidableEq, Repr

/-- The text an error is reported with. -/
def BenchmarkError.message : BenchmarkError → String
  | .unknownOperation name => s!"unknown operation: {name}"
  | .unknownDivisorType name =>
    s!"unknown divisor type: {name} (expected mixed, positive or negative)"
  | .invalidBufferSize size => s!"buffer size must be positive, got {size.toNat}"
  | .trialPanicked operation trial message =>
    s!"trial {trial} of {operation} panicked: {message}"

end DivisionBenchmark

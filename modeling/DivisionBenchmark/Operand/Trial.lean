import DivisionBenchmark.Operand.DivisorType

/-!
# Trials

A trial is described by the divisor type and the length of its operand buffers. Two trials with
equal descriptions see equal operands.
-/

namespace DivisionBenchmark

/-- **The description of a trial.** -/
structure Trial where
  /-- How divisors are shaped. -/
  divisorType : DivisorType
  /-- How many operand pairs there are. -/
  bufferSize : UInt64
  deriving DecidableEq, Repr

namespace Trial

/-- The buffer length of the reference workload. -/
def referenceSize : UInt64 := 1024

/-- The trial of the reference workload. -/
def reference : Trial := ⟨.mixed, referenceSize⟩

instance : Inhabited Trial := ⟨reference⟩

/-- A trial as a line of text. -/
def label (trial : Trial) : String :=
  s!"divisorType={trial.divisorType.name}, bufferSize={trial.bufferSize.toNat}"

end Trial

end DivisionBenchmark

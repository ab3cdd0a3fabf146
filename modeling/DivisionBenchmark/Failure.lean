import DivisionBenchmark.BenchmarkError
import DivisionBenchmark.Fault

/-!
# Failures

What keeps a benchmark from giving its result: it is rejected for a reason of its own, or its
computation is abandoned.
-/

namespace DivisionBenchmark

/-- **Why a benchmark gave no result.** -/
inductive Failure where
  /-- The benchmark was rejected. -/
  | rejected (error : BenchmarkError)
  /-- The computation was abandoned. -/
  | faulted (fault : Fault)
  deriving DecidableEq, Repr

/-- The text a failure is reported with. -/
def Failure.message : Failure → String
  | .rejected error => error.message
  | .faulted fault => fault.message

end DivisionBenchmark

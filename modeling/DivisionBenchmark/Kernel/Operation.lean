import DivisionBenchmark.Kernel.Sweep
import DivisionBenchmark.Operand.Buffers

/-!
# Operations

The seven sweeps a benchmark can measure, by name. An operation holds no state: running it only
overwrites the results it computes.

Main definitions:

* `DivisionBenchmark.Operation`: the operations;
* `DivisionBenchmark.Operation.run`: one sweep over a set of buffers;
* `DivisionBenchmark.Operation.ofText`: the operation a text names, in any of the spellings people
  write;
* `DivisionBenchmark.Operation.runNamed`: the two together.
-/

namespace DivisionBenchmark

/-- **A measured sweep.** -/
inductive Operation where
  /-- Unsigned quotients of the operand pairs. -/
  | divideUnsigned
  /-- Unsigned remainders of the operand pairs. -/
  | remainderUnsigned
  /-- Unsigned quotients and remainders in one pass. -/
  | divideRemainderUnsigned
  /-- Signed quotients by 7 of the lower halves of the dividends. -/
  | divideConstantBounded
  /-- Unsigned quotients by 7 of the dividends. -/
  | divideUnsignedConstant
  /-- Unsigned quotients by 15 of the lower halves of the dividends. -/
  | divideUnsignedConstantBounded
  /-- Unsigned remainders by 7 of the dividends. -/
  | remainderUnsignedConstant
  deriving DecidableEq, Repr, Inhabited

namespace Operation

/-- The operations, in the order a sweep measures them. -/
def all : List Operation :=
  [.divideUnsigned, .remainderUnsigned, .divideRemainderUnsigned, .divideConstantBounded,
    .divideUnsignedConstant, .divideUnsignedConstantBounded, .remainderUnsignedConstant]

/-- The name of an operation in configurations and reports. -/
def name : Operation → String
  | .divideUnsigned => "divideUnsigned"
  | .remainderUnsigned => "remainderUnsigned"
  | .divideRemainderUnsigned => "divideRemainderUnsigned"
  | .divideConstantBounded => "divideConstantBounded"
  | .divideUnsignedConstant => "divideUnsignedConstant"
  | .divideUnsignedConstantBounded => "divideUnsignedConstantBounded"
  | .remainderUnsignedConstant => "remainderUnsignedConstant"

theorem mem_all (operation : Operation) : operation ∈ all := by cases operation <;> decide

/-- Whether the sweep reads the divisors of the trial. -/
def usesRuntimeDivisor : Operation → Bool
  | .divideUnsigned | .remainderUnsigned | .divideRemainderUnsigned => true
  | _ => false

/-- **One sweep of an operation over a set of buffers.** -/
def run (operation : Operation) (b : Buffers) : Except Fault Buffers :=
  match operation with
  | .divideUnsigned => do
    return { b with quotients := ← Sweep.divideUnsigned b.dividends b.divisors b.quotients }
  | .remainderUnsigned => do
    return { b with remainders := ← Sweep.remainderUnsigned b.dividends b.divisors b.remainders }
  | .divideRemainderUnsigned => do
    let (quotients, remainders) ←
      Sweep.divideRemainderUnsigned b.dividends b.divisors b.quotients b.remainders
    return { b with quotients, remainders }
  | .divideConstantBounded =>
    .ok { b with quotients := Sweep.divideConstantBounded b.dividends b.quotients }
  | .divideUnsignedConstant =>
    .ok { b with quotients := Sweep.divideUnsignedConstant b.dividends b.quotients }
  | .divideUnsignedConstantBounded =>
    .ok { b with quotients := Sweep.divideUnsignedConstantBounded b.dividends b.quotients }
  | .remainderUnsignedConstant =>
    .ok { b with remainders := Sweep.remainderUnsignedConstant b.dividends b.remainders }

/-! ### Names as people write them -/

/-- A name in lower case, as spellings are compared. -/
def key (operation : Operation) : List Char :=
  operation.name.toList.map Char.toLower

/-- What a spelling is compared by: the text without the blanks around it and the hyphens and
underscores in it, in lower case, less one leading `test`. -/
def spellingKey (text : List Char) : List Char :=
  let letters := ((Text.trim text).filter fun c => c != '-' && c != '_').map Char.toLower
  match letters with
  | 't' :: 'e' :: 's' :: 't' :: rest => rest
  | _ => letters

/-- The operation a text names. -/
def ofText (text : String) : Except BenchmarkError Operation :=
  let key := spellingKey text.toList
  match all.find? fun operation => operation.key == key with
  | some operation => .ok operation
  | none => .error (.unknownOperation text)

/-- One sweep of the operation a text names. -/
def runNamed (text : String) (buffers : Buffers) : Except Failure Buffers :=
  match ofText text with
  | .ok operation => (operation.run buffers).mapError .faulted
  | .error error => .error (.rejected error)

/-- The operation with exactly this name. -/
def ofName? (name : String) : Option Operation :=
  all.find? fun operation => operation.name == name

end Operation

end DivisionBenchmark

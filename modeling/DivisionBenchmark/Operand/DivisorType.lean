import DivisionBenchmark.BenchmarkError
import DivisionBenchmark.Text.Blank

/-!
# Divisor types

How the sign of a drawn divisor is shaped. A draw may be any 64-bit pattern; a divisor must not be
zero, and depending on its type must have one sign.

Main definitions:

* `DivisionBenchmark.DivisorType`: the three policies;
* `DivisionBenchmark.DivisorType.shape`: the divisor made of a draw;
* `DivisionBenchmark.DivisorType.ofText`: the policy a text names.
-/

namespace DivisionBenchmark

/-- **A sign policy for divisors.** -/
inductive DivisorType where
  /-- Divisors keep the sign they were drawn with. -/
  | mixed
  /-- Divisors are strictly positive. -/
  | positive
  /-- Divisors are strictly negative. -/
  | negative
  deriving DecidableEq, Repr, Inhabited

namespace DivisorType

/-- The policies, in the order a sweep visits them. -/
def all : List DivisorType := [.mixed, .positive, .negative]

/-- The name of a policy in configurations and reports. -/
def name : DivisorType → String
  | .mixed => "mixed"
  | .positive => "positive"
  | .negative => "negative"

/-- The policy with exactly this name. -/
def ofName? (name : String) : Option DivisorType :=
  all.find? fun kind => kind.name == name

/-- The policy a text names, whatever the case of its letters and the blanks around it. -/
def ofText (text : String) : Except BenchmarkError DivisorType :=
  match ofName? (String.ofList ((Text.trim text.toList).map Char.toLower)) with
  | some kind => .ok kind
  | none => .error (.unknownDivisorType text)

/-- **The divisor made of a draw.** Zero becomes one; then the sign is shaped. The least word has
no negation, so as a positive divisor it becomes the greatest. -/
def shape (kind : DivisorType) (draw : Int64) : Int64 :=
  let divisor := if draw = 0 then 1 else draw
  match kind with
  | .mixed => divisor
  | .positive =>
    if divisor = Int64.minValue then Int64.maxValue
    else if divisor < 0 then -divisor else divisor
  | .negative => if 0 < divisor then -divisor else divisor

end DivisorType

end DivisionBenchmark

import DivisionBenchmark.Text.Blank
import DivisionBenchmark.Text.Lowercase
import DivisionBenchmark.Text.Numeral
import DivisionBenchmark.Time.Duration

/-!
# Iteration times

The time an iteration is to take, as it is written on a command line: a count with a unit behind
it, such as `200ms`, `1 s` or `500US`. A count alone is in milliseconds.

Main definitions:

* `DivisionBenchmark.IterationTime.Unit`: the units, with their names and lengths;
* `DivisionBenchmark.IterationTime.Error`: what can be wrong with a text;
* `DivisionBenchmark.IterationTime.parse`: the duration a text stands for.

The unit is looked for at the end of the text, and is taken away as often as it is repeated there.
-/

namespace DivisionBenchmark.IterationTime

/-- **A unit of time.** -/
inductive Unit where
  /-- Microseconds. -/
  | micros
  /-- Milliseconds. -/
  | millis
  /-- Seconds. -/
  | seconds
  deriving DecidableEq, Repr

namespace Unit

/-- How a unit is written. -/
def symbol : Unit → List Char
  | .micros => ['u', 's']
  | .millis => ['m', 's']
  | .seconds => ['s']

/-- The nanoseconds of a unit. -/
def nanos : Unit → Nat
  | .micros => 1000
  | .millis => 1000000
  | .seconds => 1000000000

/-- The units in the order they are looked for: a longer symbol before one it ends in. -/
def all : List Unit := [.micros, .millis, .seconds]

end Unit

/-- **What is wrong with an iteration time.** The text is as it was read: without the blanks around
it, in lower case. -/
inductive Error where
  /-- What stands before the unit is no count. -/
  | malformed (text : String) (cause : Text.NumeralError)
  /-- The time has more than 64 bits of nanoseconds. -/
  | outOfRange (text : String)
  deriving DecidableEq, Repr

/-- The texts an error is reported with, the outermost first. -/
def Error.chain : Error → List String
  | .malformed text cause => [s!"Invalid time format: {text}", cause.message]
  | .outOfRange text => [s!"Time out of range: {text}"]

/-- A reversed text without the reversed symbol it begins with, taken away as often as it is
there. -/
def dropLeading (symbol : List Char) : Nat → List Char → List Char
  | 0, cs => cs
  | times + 1, cs =>
    if symbol.isPrefixOf cs then dropLeading symbol times (cs.drop symbol.length) else cs

/-- A text without the symbol at its end, taken away as often as it is there. -/
def dropSymbol (symbol cs : List Char) : List Char :=
  (dropLeading symbol.reverse cs.length cs.reverse).reverse

/-- The count and the unit a text is made of. -/
def splitUnit (text : List Char) : List Char × Unit :=
  match Unit.all.find? fun u => u.symbol.isSuffixOf text with
  | some u => (dropSymbol u.symbol text, u)
  | none => (text, .millis)

/-- **The duration a text stands for.** -/
def parse (text : String) : Except Error Duration :=
  let text := Text.lower (Text.trim text.toList)
  let (count, u) := splitUnit text
  match Text.readCount (Text.trim count) with
  | .error cause => .error (.malformed (String.ofList text) cause)
  | .ok n =>
    if n * u.nanos < Count.bound then .ok (Duration.ofNanos (UInt64.ofNat (n * u.nanos)))
    else .error (.outOfRange (String.ofList text))

end DivisionBenchmark.IterationTime

/-!
# Computations that read a clock

What is measured depends on nothing but the readings of a clock. A computation that needs some is
therefore a tree: it is done with a value, or it asks for a reading and goes on as the reading says.
Whoever runs it supplies the clock, be it the machine's or one made up.

Main definitions:

* `DivisionBenchmark.Timed`: the computations;
* `DivisionBenchmark.Timed.runFrom`: a computation under a clock whose readings are given by a
  sequence, with the number of readings it took;
* `DivisionBenchmark.Timed.run`: only its value.

Main statement: `runFrom_bind`, a computation and its continuation share one sequence of readings.
-/

namespace DivisionBenchmark

/-- **A computation that reads a clock.** A reading is a number of nanoseconds. -/
inductive Timed (α : Type) where
  /-- The computation is done. -/
  | done (value : α)
  /-- The computation goes on with a reading of the clock. -/
  | reading (next : UInt64 → Timed α)

namespace Timed

variable {α β : Type}

/-- A computation followed by another. -/
def bind (x : Timed α) (f : α → Timed β) : Timed β :=
  match x with
  | .done value => f value
  | .reading next => .reading fun nanos => (next nanos).bind f

instance : Monad Timed where
  pure := .done
  bind := bind

/-- A reading of the clock. -/
def now : Timed UInt64 := .reading .done

/-- The value of a computation under a clock that has given `taken` readings already, and how many
it has given then. -/
def runFrom (clock : Nat → UInt64) : Timed α → Nat → α × Nat
  | .done value, taken => (value, taken)
  | .reading next, taken => (next (clock taken)).runFrom clock (taken + 1)

/-- The value of a computation under a clock. -/
def run (clock : Nat → UInt64) (x : Timed α) : α := (x.runFrom clock 0).1

/-- A computation and its continuation share one sequence of readings. -/
@[simp] theorem runFrom_bind (clock : Nat → UInt64) (x : Timed α) (f : α → Timed β)
    (taken : Nat) :
    (x >>= f).runFrom clock taken =
      (f (x.runFrom clock taken).1).runFrom clock (x.runFrom clock taken).2 := by
  show (x.bind f).runFrom clock taken = _
  induction x generalizing taken with
  | done value => rfl
  | reading next ih => exact ih (clock taken) (taken + 1)

end Timed

end DivisionBenchmark

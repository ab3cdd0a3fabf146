/-!
# Faults

A computation of this library either answers, is rejected for a reason the user can act on, or
is abandoned on the spot because an operation has no result in its word size. The last case is a
`Fault`: the cause, and nothing else.

Main definitions:

* `DivisionBenchmark.Fault`: the causes;
* `DivisionBenchmark.Fault.message`: the text each cause is reported with.

Where a computation may be abandoned, it answers only if all its parts do (`bind_eq_ok_iff`).
-/

namespace DivisionBenchmark

/-- **Why a computation was abandoned.** -/
inductive Fault where
  /-- A quotient by zero was asked for. -/
  | divideByZero
  /-- A remainder by zero was asked for. -/
  | remainderByZero
  /-- A sum of counts does not fit in 64 bits. -/
  | sumOverflow
  /-- A product of counts does not fit in 64 bits. -/
  | productOverflow
  /-- A sum of durations has more than 64 bits of seconds. -/
  | durationSumOverflow
  /-- A multiple of a duration has more than 64 bits of seconds. -/
  | durationProductOverflow
  /-- What is to be kept would take more bytes than can be addressed. -/
  | capacityOverflow
  /-- A scripted source was given nothing to replay. -/
  | emptyScript
  deriving DecidableEq, Repr

/-- The text a fault is reported with. -/
def Fault.message : Fault → String
  | .divideByZero => "attempt to divide by zero"
  | .remainderByZero => "attempt to calculate the remainder with a divisor of zero"
  | .sumOverflow => "attempt to add with overflow"
  | .productOverflow => "attempt to multiply with overflow"
  | .durationSumOverflow => "overflow when adding durations"
  | .durationProductOverflow => "overflow when multiplying duration by scalar"
  | .capacityOverflow => "capacity overflow"
  | .emptyScript => "scripted source needs at least one value"

/-- A computation in two parts answers exactly where both parts do. -/
theorem bind_eq_ok_iff {ε α β : Type} {x : Except ε α} {f : α → Except ε β} {b : β} :
    (x >>= f) = .ok b ↔ ∃ a, x = .ok a ∧ f a = .ok b := by
  cases x with
  | error e =>
    constructor
    · intro h
      cases h
    · rintro ⟨a, h, -⟩
      cases h
  | ok a =>
    constructor
    · intro h
      exact ⟨a, rfl, h⟩
    · rintro ⟨a', h, hf⟩
      obtain rfl := Except.ok.inj h
      exact hf

/-- A changed answer is there exactly where the answer is. -/
theorem map_eq_ok_iff {ε α β : Type} {x : Except ε α} {f : α → β} {b : β} :
    f <$> x = .ok b ↔ ∃ a, x = .ok a ∧ f a = b := by
  cases x with
  | error e =>
    constructor
    · intro h
      cases h
    · rintro ⟨a, h, -⟩
      cases h
  | ok a =>
    constructor
    · intro h
      exact ⟨a, rfl, Except.ok.inj h⟩
    · rintro ⟨a', h, hf⟩
      obtain rfl := Except.ok.inj h
      exact congrArg Except.ok hf

end DivisionBenchmark

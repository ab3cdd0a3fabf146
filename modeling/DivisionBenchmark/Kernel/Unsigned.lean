import DivisionBenchmark.Fault

/-!
# Unsigned division of signed words

Operands are stored as signed 64-bit words and read as unsigned magnitudes. A result is the word
with the same bits, so a quotient above the greatest signed word comes back negative.

Main definitions:

* `DivisionBenchmark.Word.magnitude`: the unsigned reading of a word;
* `DivisionBenchmark.Word.quotient`, `DivisionBenchmark.Word.remainder`: division and remainder of
  the readings;
* `DivisionBenchmark.Word.divide`, `DivisionBenchmark.Word.modulo`: the same for a divisor that may
  be zero, which is a fault;
* `DivisionBenchmark.Word.low`, `DivisionBenchmark.Word.signedLow`: the lower half of a word, read
  as unsigned and as signed.

The readings of the results are those of the natural numbers (`magnitude_quotient`,
`magnitude_remainder`).
-/

namespace DivisionBenchmark.Word

/-- The unsigned reading of a word. -/
def magnitude (word : Int64) : Nat := word.toUInt64.toNat

/-- The word whose reading is the quotient of the readings. -/
def quotient (dividend divisor : Int64) : Int64 :=
  (dividend.toUInt64 / divisor.toUInt64).toInt64

/-- The word whose reading is the remainder of the readings. -/
def remainder (dividend divisor : Int64) : Int64 :=
  (dividend.toUInt64 % divisor.toUInt64).toInt64

/-- Unsigned division, a fault where the divisor is zero. -/
def divide (dividend divisor : Int64) : Except Fault Int64 :=
  if divisor = 0 then .error .divideByZero else .ok (quotient dividend divisor)

/-- Unsigned remainder, a fault where the divisor is zero. -/
def modulo (dividend divisor : Int64) : Except Fault Int64 :=
  if divisor = 0 then .error .remainderByZero else .ok (remainder dividend divisor)

/-- The lower 32 bits of a word, read as unsigned. -/
def low (word : Int64) : Int64 := word.toUInt64.toUInt32.toUInt64.toInt64

/-- The lower 32 bits of a word, read as signed. -/
def signedLow (word : Int64) : Int64 := word.toInt32.toInt64

/-- A word is known by its reading. -/
theorem magnitude_inj {a b : Int64} : magnitude a = magnitude b ↔ a = b := by
  unfold magnitude
  rw [UInt64.toNat_inj]
  constructor
  · intro h
    have := congrArg UInt64.toInt64 h
    simpa using this
  · intro h
    rw [h]

@[simp] theorem magnitude_zero : magnitude 0 = 0 := rfl

theorem magnitude_eq_zero_iff {a : Int64} : magnitude a = 0 ↔ a = 0 := by
  rw [← magnitude_inj, magnitude_zero]

@[simp] theorem magnitude_quotient (n d : Int64) :
    magnitude (quotient n d) = magnitude n / magnitude d := by
  unfold magnitude quotient
  rw [UInt64.toUInt64_toInt64, UInt64.toNat_div]

@[simp] theorem magnitude_remainder (n d : Int64) :
    magnitude (remainder n d) = magnitude n % magnitude d := by
  unfold magnitude remainder
  rw [UInt64.toUInt64_toInt64, UInt64.toNat_mod]

/-- The lower half reads as the magnitude modulo 2 to the 32. -/
@[simp] theorem magnitude_low (n : Int64) : magnitude (low n) = magnitude n % UInt32.size := by
  unfold magnitude low
  rw [UInt64.toUInt64_toInt64, UInt32.toNat_toUInt64, UInt64.toNat_toUInt32, UInt32.size]

end DivisionBenchmark.Word

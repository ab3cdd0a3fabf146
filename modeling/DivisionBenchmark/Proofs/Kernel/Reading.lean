import DivisionBenchmark.Kernel.Unsigned

/-!
# Quotients and remainders of readings

What it means that one natural number is the quotient, or the remainder, of two others, said by
inequalities and divisibility and not by a division; and how the two readings of a word, unsigned
and signed, hang together.

A quotient and a remainder are known by what they fulfil
(`DivisionBenchmark.Word.isQuotient_iff`, `DivisionBenchmark.Word.isRemainder_iff`), and a word is
known by either reading, so a word that fulfils one of them is the word the division gives.

The two readings part where the top bit is set. For the lower half of a word this is said by what
the half lacks of two to the 32 (`DivisionBenchmark.Word.lowComplement`): read as signed, a half
with its top bit set is minus that.
-/

namespace DivisionBenchmark.Word

/-! ### Quotients and remainders -/

/-- **`q` is the quotient of `n` by `d`**: so many times the divisor does not exceed the dividend,
once more does. -/
def IsQuotient (n d q : Nat) : Prop := q * d ≤ n ∧ n < (q + 1) * d

/-- **`r` is the remainder of `n` by `d`**: it is below the divisor, and the divisor divides what
is left of the dividend without it. -/
def IsRemainder (n d r : Nat) : Prop := r < d ∧ r ≤ n ∧ d ∣ n - r

variable {n d q r : Nat}

theorem isQuotient_iff (hd : 0 < d) : IsQuotient n d q ↔ q = n / d := by
  rw [IsQuotient, ← Nat.le_div_iff_mul_le hd, ← Nat.div_lt_iff_lt_mul hd]
  omega

theorem isRemainder_iff (hd : 0 < d) : IsRemainder n d r ↔ r = n % d := by
  constructor
  · rintro ⟨hlt, hle, k, hk⟩
    have hn : n = r + d * k := by omega
    rw [hn, Nat.add_mul_mod_self_left, Nat.mod_eq_of_lt hlt]
  · rintro rfl
    refine ⟨Nat.mod_lt n hd, Nat.mod_le n d, n / d, ?_⟩
    have := Nat.div_add_mod n d
    omega

/-- The word a division gives is the word whose reading is the quotient. -/
theorem isQuotient_magnitude_iff {n d q : Int64} (hd : d ≠ 0) :
    IsQuotient (magnitude n) (magnitude d) (magnitude q) ↔ q = quotient n d := by
  have hpos : 0 < magnitude d := Nat.pos_of_ne_zero (mt magnitude_eq_zero_iff.mp hd)
  rw [isQuotient_iff hpos, ← magnitude_quotient, magnitude_inj]

/-- The word a division leaves is the word whose reading is the remainder. -/
theorem isRemainder_magnitude_iff {n d r : Int64} (hd : d ≠ 0) :
    IsRemainder (magnitude n) (magnitude d) (magnitude r) ↔ r = remainder n d := by
  have hpos : 0 < magnitude d := Nat.pos_of_ne_zero (mt magnitude_eq_zero_iff.mp hd)
  rw [isRemainder_iff hpos, ← magnitude_remainder, magnitude_inj]

/-! ### The two readings of a word -/

/-- The signed reading is the unsigned one, wrapped. -/
theorem toInt_eq_bmod (word : Int64) :
    word.toInt = (magnitude word : Int).bmod UInt64.size :=
  BitVec.toInt_eq_toNat_bmod _

/-- A word without its top bit reads the same either way. -/
theorem toInt_of_magnitude_lt {word : Int64} (h : magnitude word < 9223372036854775808) :
    word.toInt = magnitude word := by
  rw [toInt_eq_bmod, UInt64.size]
  apply Int.bmod_eq_of_le <;> omega

/-- The lower half, read as signed, is the lower half of the unsigned reading, wrapped. -/
theorem toInt_signedLow (n : Int64) :
    (signedLow n).toInt = (magnitude n : Int).bmod UInt32.size := by
  rw [signedLow, Int32.toInt_toInt64, Int64.toInt_toInt32, toInt_eq_bmod]
  exact Int.bmod_bmod_of_dvd (by decide)

/-- The signed quotient of the lower half by seven, toward zero. -/
theorem toInt_signedLow_div_seven (n : Int64) :
    (signedLow n / 7).toInt = ((magnitude n : Int).bmod UInt32.size).tdiv 7 := by
  rw [Int64.toInt_div_of_ne_right _ _ (by decide), toInt_signedLow]
  rfl

/-- A quotient of a word without its top bit has none either, so it reads the same either way. -/
theorem toInt_quotient_of_magnitude_lt {n : Int64} (h : magnitude n < 9223372036854775808)
    (d : Int64) : (quotient n d).toInt = ((magnitude n / magnitude d : Nat) : Int) := by
  have hle : magnitude n / magnitude d ≤ magnitude n := Nat.div_le_self _ _
  rw [toInt_of_magnitude_lt, magnitude_quotient]
  rw [magnitude_quotient]
  omega

theorem magnitude_low_lt (n : Int64) : magnitude (low n) < 4294967296 := by
  rw [magnitude_low]
  exact Nat.mod_lt _ (by decide)

/-- The quotient of the lower half by fifteen reads the same either way. -/
theorem toInt_quotient_low_fifteen (n : Int64) :
    (quotient (low n) 15).toInt = ((magnitude n % UInt32.size / 15 : Nat) : Int) := by
  have hlt := magnitude_low_lt n
  rw [toInt_quotient_of_magnitude_lt (by omega), magnitude_low]
  rfl

/-! ### The lower half of a word, and what it lacks -/

/-- What the lower half of a word lacks of two to the 32. -/
def lowComplement (n : Int64) : Int64 := 4294967296 - low n

theorem magnitude_lowComplement (n : Int64) :
    magnitude (lowComplement n) = 4294967296 - magnitude (low n) := by
  have hle : (low n).toUInt64 ≤ (4294967296 : UInt64) := by
    rw [UInt64.le_iff_toNat_le]
    exact Nat.le_of_lt (magnitude_low_lt n)
  rw [magnitude, lowComplement, Int64.toUInt64_sub]
  exact UInt64.toNat_sub_of_le _ _ hle

/-- The top bit of the lower half says whether it is at least half of what it may be. -/
theorem testBit_31_iff (n : Nat) : n.testBit 31 = true ↔ 2147483648 ≤ n % 4294967296 := by
  rw [Nat.testBit_eq_decide_div_mod_eq, decide_eq_true_iff]
  omega

/-- The lower half, read as signed: its unsigned reading where its top bit is clear, and else minus
what it lacks. -/
theorem toInt_signedLow_eq (n : Int64) :
    (signedLow n).toInt =
      if (magnitude n).testBit 31 then -(magnitude (lowComplement n) : Int)
      else magnitude (low n) := by
  rw [toInt_signedLow, magnitude_lowComplement, magnitude_low, Int.bmod_def, UInt32.size]
  by_cases hbit : (magnitude n).testBit 31 = true
  · have hle := (testBit_31_iff _).mp hbit
    rw [if_pos hbit, if_neg (by omega)]
    omega
  · have hlt := mt (testBit_31_iff _).mpr hbit
    rw [if_neg hbit, if_pos (by omega)]
    omega

/-- **The signed quotient of the lower half by seven is an unsigned one**: that of the lower half
where its top bit is clear, and else minus that of what the lower half lacks. -/
theorem toInt_signedLow_div_seven_eq (n : Int64) :
    (signedLow n / 7).toInt =
      if (magnitude n).testBit 31 then -(quotient (lowComplement n) 7).toInt
      else (quotient (low n) 7).toInt := by
  have hlow := magnitude_low_lt n
  have hcomplement := magnitude_lowComplement n
  rw [toInt_quotient_of_magnitude_lt (by omega), toInt_quotient_of_magnitude_lt (by omega),
    Int64.toInt_div_of_ne_right _ _ (by decide), toInt_signedLow_eq]
  split
  · -- division toward zero lets the sign through
    exact Int.neg_tdiv _ _
  · rfl

end DivisionBenchmark.Word

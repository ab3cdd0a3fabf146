import DivisionBenchmark.Fault

/-!
# Counts

Iterations, trials, invocations and buffer lengths are 64-bit counts. Sums and products of counts
are checked: where the true result needs more than 64 bits the computation faults. So does one that
asks for more room than can be addressed.

Main definitions:

* `DivisionBenchmark.Count.add`, `DivisionBenchmark.Count.mul`: checked sum and product;
* `DivisionBenchmark.Count.saturatingAdd`: the sum that stops at the greatest count instead, for
  tallies that are never allowed to fault;
* `DivisionBenchmark.Count.reserve`: room for a list whose length is known before it is filled.

Each is tied to the natural numbers by the lemmas beside it.
-/

namespace DivisionBenchmark.Count

/-- The number of different counts, two to the 64: a count is below this. -/
abbrev bound : Nat := 18446744073709551616

/-- So many words, two to the 60, take more bytes than can be addressed. -/
def capacity : Nat := 1152921504606846976

/-- The most bytes that can be addressed, one less than two to the 63. -/
def addressable : Nat := 9223372036854775807

/-- The sum of two counts, a fault where it has no 64-bit value. -/
def add (a b : UInt64) : Except Fault UInt64 :=
  if a.toNat + b.toNat < bound then .ok (a + b) else .error .sumOverflow

/-- The product of two counts, a fault where it has no 64-bit value. -/
def mul (a b : UInt64) : Except Fault UInt64 :=
  if a.toNat * b.toNat < bound then .ok (a * b) else .error .productOverflow

/-- The sum of two tallies, held at the greatest 64-bit value. -/
def saturatingAdd (a b : Nat) : Nat :=
  min (a + b) (bound - 1)

/-- Room for so many items of one size in bytes, a fault where it cannot be addressed. Nothing comes
of it but the fault. -/
def reserve (count size : Nat) : Except Fault Unit :=
  if count * size ≤ addressable then .ok () else .error .capacityOverflow

/-- A checked sum succeeds exactly where the sum of the numbers is a count, and is that count. -/
theorem add_eq_ok_iff {a b c : UInt64} : add a b = .ok c ↔ a.toNat + b.toNat = c.toNat := by
  have hc := c.toNat_lt
  unfold add bound
  split
  · rename_i h
    rw [Except.ok.injEq, ← UInt64.toNat_inj, UInt64.toNat_add]
    omega
  · constructor
    · intro h; cases h
    · intro h; omega

/-- A checked product succeeds exactly where the product of the numbers is a count, and is that
count. -/
theorem mul_eq_ok_iff {a b c : UInt64} : mul a b = .ok c ↔ a.toNat * b.toNat = c.toNat := by
  have hc := c.toNat_lt
  unfold mul bound
  split
  · rename_i h
    rw [Except.ok.injEq, ← UInt64.toNat_inj, UInt64.toNat_mul, Nat.mod_eq_of_lt h]
  · constructor
    · intro h; cases h
    · intro h; omega

theorem reserve_eq_ok_iff {count size : Nat} :
    reserve count size = .ok () ↔ count * size ≤ addressable := by
  unfold reserve
  split <;> simp_all

theorem saturatingAdd_eq_add {a b : Nat} (h : a + b < bound) : saturatingAdd a b = a + b := by
  unfold saturatingAdd
  omega

end DivisionBenchmark.Count

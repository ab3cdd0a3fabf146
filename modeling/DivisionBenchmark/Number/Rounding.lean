/-!
# Rounding a quotient

The whole number nearest to a quotient of natural numbers. Where two are equally near the even one
is taken, so that roundings do not drift.

Main definition: `DivisionBenchmark.roundDiv`. Main statements: a quotient without remainder is its
own rounding (`roundDiv_mul`), and rounding keeps order (`roundDiv_le_roundDiv`).
-/

namespace DivisionBenchmark

/-- The whole number nearest to `a / b`, the even one of two equally near. -/
def roundDiv (a b : Nat) : Nat :=
  let quotient := a / b
  let rest := a % b
  if 2 * rest < b then quotient
  else if b < 2 * rest then quotient + 1
  else quotient + quotient % 2

theorem roundDiv_mul {b : Nat} (n : Nat) (hb : 0 < b) : roundDiv (n * b) b = n := by
  unfold roundDiv
  rw [Nat.mul_div_cancel _ hb, Nat.mul_mod_left]
  simp [hb]

/-- Rounding keeps order. -/
theorem roundDiv_le_roundDiv {a a' b : Nat} (h : a ≤ a') :
    roundDiv a b ≤ roundDiv a' b := by
  by_cases hq : a / b = a' / b
  · have hdiv := Nat.div_add_mod a b
    have hdiv' := Nat.div_add_mod a' b
    rw [hq] at hdiv
    unfold roundDiv
    rw [hq]
    dsimp only
    split <;> split <;> (try split) <;> (try split) <;> omega
  · have hlt : a / b + 1 ≤ a' / b :=
      Nat.succ_le_of_lt (Nat.lt_of_le_of_ne (Nat.div_le_div_right h) hq)
    have hupper : roundDiv a b ≤ a / b + 1 := by
      unfold roundDiv
      dsimp only
      split
      · omega
      · split <;> omega
    have hlower : a' / b ≤ roundDiv a' b := by
      unfold roundDiv
      dsimp only
      split
      · omega
      · split <;> omega
    omega

end DivisionBenchmark

/-!
# Buckets of latencies

A latency is not kept to the nanosecond. Latencies below `2048` are their own buckets; above, a
bucket is `2 ^ s` wide where the latency has `s + 11` bits, so that a bucket is always narrow beside
the latencies in it. A bucket is known by the lowest latency in it.

Main definitions:

* `DivisionBenchmark.Bucket.lowest`, `DivisionBenchmark.Bucket.highest`,
  `DivisionBenchmark.Bucket.median`: the bounds and the middle of the bucket a latency falls in;
* `DivisionBenchmark.Bucket.index`, `DivisionBenchmark.Bucket.block`: the place of a bucket, and the
  block of neighbouring buckets it is counted with;
* `DivisionBenchmark.Bucket.clamp`: the latency that is kept for a latency outside the range of one
  nanosecond to one minute.

Main statements: a latency lies between the bounds of its bucket (`lowest_le`, `le_highest`), the
buckets ascend with their latencies (`lowest_le_lowest`, `highest_le_highest`), and both bounds are
in the bucket they bound (`lowest_lowest`, `lowest_highest`). A bucket is narrow: its bounds are
within a thousandth of any latency in it (`sub_lowest_mul_le`, `highest_sub_mul_le`), and below
`2048` they are the latency.
-/

namespace DivisionBenchmark.Bucket

/-- The longest latency that is kept: one minute in nanoseconds. -/
def longest : Nat := 60000000000

/-- The latency kept for a latency of so many nanoseconds. -/
def clamp (nanos : Nat) : Nat := max 1 (min nanos longest)

/-- The number of low bits of a latency that are not kept. -/
def shift (nanos : Nat) : Nat := nanos.log2 - 10

/-- The number of latencies in the bucket of a latency. -/
def width (nanos : Nat) : Nat := Nat.pow 2 (shift nanos)

/-- The lowest latency in the bucket of a latency. -/
def lowest (nanos : Nat) : Nat := nanos / width nanos * width nanos

/-- The highest latency in the bucket of a latency. -/
def highest (nanos : Nat) : Nat := lowest nanos + width nanos - 1

/-- The middle of the bucket of a latency. -/
def median (nanos : Nat) : Nat := lowest nanos + width nanos / 2

/-- The place of the bucket of a latency among all buckets, ascending from zero. -/
def index (nanos : Nat) : Nat := nanos / width nanos + 1024 * shift nanos

/-- The number of neighbouring buckets that are counted together. -/
def blockSize : Nat := 8

/-- The block that the bucket of a latency is in. -/
def block (nanos : Nat) : Nat := index nanos / blockSize

/-! ### Bounds -/

theorem width_pos (nanos : Nat) : 0 < width nanos := Nat.two_pow_pos _

theorem lowest_le (nanos : Nat) : lowest nanos ≤ nanos := Nat.div_mul_le_self _ _

theorem lt_lowest_add (nanos : Nat) : nanos < lowest nanos + width nanos := by
  have h := Nat.div_add_mod nanos (width nanos)
  have hmod := Nat.mod_lt nanos (width_pos nanos)
  rw [Nat.mul_comm] at h
  unfold lowest
  omega

theorem le_highest (nanos : Nat) : nanos ≤ highest nanos := by
  have := lt_lowest_add nanos
  unfold highest
  omega

/-- Latencies of at most eleven bits are kept exactly. -/
theorem shift_eq_zero {nanos : Nat} (h : nanos < 2048) : shift nanos = 0 := by
  unfold shift
  rcases Nat.eq_zero_or_pos nanos with rfl | hpos
  · decide
  · have : nanos.log2 < 11 := (Nat.log2_lt (by omega)).mpr h
    omega

/-- A latency whose bucket is wider than one has at least `1024` times the width. -/
theorem width_mul_le {nanos : Nat} (h : shift nanos ≠ 0) : width nanos * 1024 ≤ nanos := by
  have hne : nanos ≠ 0 := by rintro rfl; exact h (by decide)
  show 2 ^ shift nanos * 1024 ≤ nanos
  have hpow : 2 ^ shift nanos * 1024 = 2 ^ nanos.log2 := by
    rw [show (1024 : Nat) = 2 ^ 10 by decide, ← Nat.pow_add]
    congr 1
    unfold shift at h ⊢
    omega
  rw [hpow]
  exact (Nat.le_log2 hne).mp (Nat.le_refl _)

/-- The lowest latency of a bucket has as many bits as any other. -/
theorem log2_lowest (nanos : Nat) : (lowest nanos).log2 = nanos.log2 := by
  rcases Nat.eq_zero_or_pos nanos with rfl | hpos
  · decide
  by_cases hs : shift nanos = 0
  · have hw : width nanos = 1 := by simp [width, hs]
    rw [lowest, hw, Nat.div_one, Nat.mul_one]
  · have hlower : 2 ^ nanos.log2 ≤ nanos := (Nat.le_log2 (by omega)).mp (Nat.le_refl _)
    have hdvd : width nanos ∣ 2 ^ nanos.log2 := Nat.pow_dvd_pow 2 (by unfold shift; omega)
    have hle : 2 ^ nanos.log2 ≤ lowest nanos := by
      obtain ⟨k, hk⟩ := hdvd
      rw [hk] at hlower ⊢
      rw [lowest, Nat.mul_comm]
      exact Nat.mul_le_mul_right _
        ((Nat.le_div_iff_mul_le (width_pos nanos)).mpr (by rw [Nat.mul_comm]; exact hlower))
    have hne : lowest nanos ≠ 0 := by
      have := Nat.two_pow_pos nanos.log2
      omega
    have hupper : nanos < 2 ^ (nanos.log2 + 1) := (Nat.log2_lt (by omega)).mp (by omega)
    have h₁ : nanos.log2 ≤ (lowest nanos).log2 := (Nat.le_log2 hne).mpr hle
    have h₂ : (lowest nanos).log2 < nanos.log2 + 1 :=
      (Nat.log2_lt hne).mpr (Nat.lt_of_le_of_lt (lowest_le nanos) hupper)
    omega

theorem width_lowest (nanos : Nat) : width (lowest nanos) = width nanos := by
  rw [width, shift, log2_lowest, width, shift]

/-- **A bucket is its own lowest latency's bucket.** -/
theorem lowest_lowest (nanos : Nat) : lowest (lowest nanos) = lowest nanos := by
  show lowest nanos / width (lowest nanos) * width (lowest nanos) = lowest nanos
  rw [width_lowest, lowest, Nat.mul_div_cancel _ (width_pos nanos)]

theorem highest_lowest (nanos : Nat) : highest (lowest nanos) = highest nanos := by
  rw [highest, lowest_lowest, width_lowest, highest]

/-- What is kept of a latency is in the range. -/
theorem clamp_le_longest (nanos : Nat) : clamp nanos ≤ longest :=
  Nat.max_le.mpr ⟨by decide, Nat.min_le_right _ _⟩

/-! ### Order -/

theorem log2_le_log2 {a b : Nat} (h : a ≤ b) : a.log2 ≤ b.log2 := by
  rcases Nat.eq_zero_or_pos a with rfl | hpos
  · exact Nat.zero_le _
  · have hle : 2 ^ a.log2 ≤ b := Nat.le_trans (Nat.log2_self_le (by omega)) h
    exact (Nat.le_log2 (by omega)).mpr hle

theorem width_le_width {a b : Nat} (h : a ≤ b) : width a ≤ width b :=
  Nat.pow_le_pow_right (by decide) (Nat.sub_le_sub_right (log2_le_log2 h) 10)

/-- **The buckets ascend with their latencies.** -/
theorem lowest_le_lowest {a b : Nat} (h : a ≤ b) : lowest a ≤ lowest b := by
  by_cases hlog : a.log2 = b.log2
  · have hwidth : width a = width b := by rw [width, shift, hlog, width, shift]
    rw [lowest, lowest, hwidth]
    exact Nat.mul_le_mul_right _ (Nat.div_le_div_right h)
  · -- `a` has fewer bits than the lowest latency of the other bucket
    have hlt : a.log2 < (lowest b).log2 := by
      have := log2_le_log2 h
      rw [log2_lowest]
      omega
    have hne : lowest b ≠ 0 := by
      intro hzero
      rw [hzero] at hlt
      exact absurd hlt (Nat.not_lt_zero _)
    calc lowest a ≤ a := lowest_le a
      _ ≤ 2 ^ (a.log2 + 1) := Nat.le_of_lt Nat.lt_log2_self
      _ ≤ 2 ^ (lowest b).log2 := Nat.pow_le_pow_right (by decide) hlt
      _ ≤ lowest b := Nat.log2_self_le hne

theorem highest_le_highest {a b : Nat} (h : a ≤ b) : highest a ≤ highest b := by
  have hlowest := lowest_le_lowest h
  have hwidth := width_le_width h
  unfold highest
  omega

/-- The highest latency of a bucket has as many bits as any other. -/
theorem log2_highest (nanos : Nat) : (highest nanos).log2 = nanos.log2 := by
  rcases Nat.eq_zero_or_pos nanos with rfl | hpos
  · decide
  -- the bucket ends before, or at, the next power of two, since its width divides that
  have hupper : lowest nanos + width nanos ≤ 2 ^ (nanos.log2 + 1) := by
    have hdvd : width nanos ∣ 2 ^ (nanos.log2 + 1) := Nat.pow_dvd_pow 2 (by unfold shift; omega)
    have hlt : nanos < 2 ^ (nanos.log2 + 1) := Nat.lt_log2_self
    obtain ⟨k, hk⟩ := hdvd
    rw [hk] at hlt ⊢
    have hquotient : nanos / width nanos + 1 ≤ k := Nat.div_lt_of_lt_mul hlt
    calc lowest nanos + width nanos = width nanos * (nanos / width nanos + 1) := by
          rw [lowest, Nat.mul_succ, Nat.mul_comm]
      _ ≤ width nanos * k := Nat.mul_le_mul_left _ hquotient
  have hlower := le_highest nanos
  have hwidth := width_pos nanos
  have hlt : (highest nanos).log2 < nanos.log2 + 1 :=
    (Nat.log2_lt (by omega)).mpr (by unfold highest; omega)
  have hle := log2_le_log2 hlower
  omega

/-- **A bucket is its own highest latency's bucket.** -/
theorem lowest_highest (nanos : Nat) : lowest (highest nanos) = lowest nanos := by
  have hwidth : width (highest nanos) = width nanos := by
    rw [width, shift, log2_highest, width, shift]
  have hpos := width_pos nanos
  have hquotient : highest nanos / width nanos = nanos / width nanos := by
    rw [highest, lowest]
    refine Nat.div_eq_of_lt_le ?_ ?_
    · omega
    · rw [Nat.succ_mul]
      omega
  rw [lowest, hwidth, hquotient, lowest]

theorem highest_highest (nanos : Nat) : highest (highest nanos) = highest nanos := by
  rw [← highest_lowest, lowest_highest, highest_lowest]

/-! ### Distance -/

/-- **The bounds of a bucket are within a thousandth of each latency in it.** -/
theorem sub_lowest_mul_le (nanos : Nat) : (nanos - lowest nanos) * 1000 ≤ nanos := by
  have hlt := lt_lowest_add nanos
  by_cases hs : shift nanos = 0
  · have hone : width nanos = 1 := by rw [width, hs]
    omega
  · calc (nanos - lowest nanos) * 1000 ≤ width nanos * 1024 := Nat.mul_le_mul (by omega) (by decide)
      _ ≤ nanos := width_mul_le hs

theorem highest_sub_mul_le (nanos : Nat) : (highest nanos - nanos) * 1000 ≤ nanos := by
  have hle := lowest_le nanos
  by_cases hs : shift nanos = 0
  · have hone : width nanos = 1 := by rw [width, hs]
    unfold highest
    omega
  · have hbelow : highest nanos - nanos ≤ width nanos := by
      unfold highest
      omega
    calc (highest nanos - nanos) * 1000 ≤ width nanos * 1024 := Nat.mul_le_mul hbelow (by decide)
      _ ≤ nanos := width_mul_le hs

/-- A latency below `2048` is a bucket of its own. -/
theorem lowest_eq_self {nanos : Nat} (h : nanos < 2048) : lowest nanos = nanos := by
  have hone : width nanos = 1 := by rw [width, shift_eq_zero h]
  rw [lowest, hone, Nat.div_one, Nat.mul_one]

theorem highest_eq_self {nanos : Nat} (h : nanos < 2048) : highest nanos = nanos := by
  have hone : width nanos = 1 := by rw [width, shift_eq_zero h]
  rw [highest, hone, lowest_eq_self h, Nat.add_sub_cancel]

end DivisionBenchmark.Bucket

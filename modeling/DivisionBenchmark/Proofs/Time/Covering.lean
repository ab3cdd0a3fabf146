import DivisionBenchmark.Time.Duration
import Mathlib.Algebra.Order.Floor.Div

/-!
# The milliseconds that cover a duration

A duration is covered by the least number of milliseconds that is not shorter than it
(`DivisionBenchmark.Duration.cover`). Durations have 64 bits of seconds, a thousand times as much as
64 bits of milliseconds, so this number need not be a 64-bit count.

Where it is one, it is what `DivisionBenchmark.Duration.ceilMillis` gives. Where it is not, the
whole milliseconds are cut down to their lower 64 bits before they are compared with the duration
and counted up. What comes out then has nothing to do with the duration any more, and is shorter
than it (`DivisionBenchmark.Duration.ceilMillis_of_bound_le`); only where the lower 64 bits are all
set is the overflow met.

Main statement: `DivisionBenchmark.Duration.ceilMillis_wraps`, which milliseconds are given and
when; a number of seconds that is understated is in
`DivisionBenchmark.Duration.ceilMillis_of_too_long`.
-/

namespace DivisionBenchmark

/-! ### Counting up what is left in 64 bits -/

/-- A count that is one more than a number cut down to 64 bits is what 64 bits leave of the next
number, unless they leave nothing of it. -/
theorem Count.add_one_eq_ok_iff {n : Nat} {count : UInt64} :
    add (.ofNat n) 1 = .ok count ↔ count ≠ 0 ∧ count.toNat = (n + 1) % bound := by
  have hlt := count.toNat_lt
  rw [add_eq_ok_iff, UInt64.toNat_ofNat', UInt64.toNat_one, ne_eq, ← UInt64.toNat_inj,
    UInt64.toNat_zero]
  unfold bound
  omega

/-- There is no such count where 64 bits leave nothing of the next number. -/
theorem Count.add_one_eq_error_iff {n : Nat} {fault : Fault} :
    add (.ofNat n) 1 = .error fault ↔ bound ∣ n + 1 ∧ fault = .sumOverflow := by
  rw [add, UInt64.toNat_ofNat', UInt64.toNat_one]
  split
  · rename_i hlt
    refine iff_of_false nofun fun h => ?_
    have := Nat.mod_eq_zero_of_dvd h.1
    unfold bound at *
    omega
  · rename_i hge
    have hdvd : bound ∣ n + 1 := by
      refine Nat.dvd_of_mod_eq_zero ?_
      unfold bound at *
      omega
    rw [Except.error.injEq, eq_comm, and_iff_right hdvd]

/-! ### Covering a duration -/

namespace Duration

variable {d : Duration} {millis : UInt64}

/-- **The milliseconds that cover a duration**, as a number of any size. -/
def cover (d : Duration) : Nat := d.nanos ⌈/⌉ 1000000

/-- No fewer milliseconds cover a duration. -/
theorem cover_le_iff {m : Nat} : d.cover ≤ m ↔ d.nanos ≤ m * 1000000 := by
  rw [cover, ceilDiv_le_iff_le_mul (by decide), Nat.mul_comm]

theorem cover_eq (d : Duration) : d.cover = (d.nanos + 999999) / 1000000 := by
  rw [cover, Nat.ceilDiv_eq_add_pred_div, Nat.add_sub_assoc (by decide)]

/-- Milliseconds are shorter than a duration where they are fewer than those that cover it. -/
theorem nanos_ofMillis_lt_iff : (ofMillis millis).nanos < d.nanos ↔ millis.toNat < d.cover := by
  rw [nanos_ofMillis, ← Nat.not_le, ← cover_le_iff, Nat.not_le]

/-! ### Which milliseconds are given -/

/-- Where the milliseconds that cover a duration are a count, they are given. -/
theorem ceilMillis_of_lt_bound (h : d.cover < Count.bound) :
    d.ceilMillis = .ok millis ↔ millis.toNat = d.cover := by
  rw [cover_eq] at h ⊢
  rw [ceilMillis_eq_ok h, Except.ok.injEq, ← UInt64.toNat_inj, UInt64.toNat_ofNat_of_lt' h,
    eq_comm]

/-- **Where they are none, one is added to the lower 64 bits of the whole milliseconds**: these are
always too short. -/
theorem ceilMillis_of_bound_le (h : Count.bound ≤ d.cover) :
    d.ceilMillis = Count.add (.ofNat (d.nanos / 1000000)) 1 := by
  have hkept : (UInt64.ofNat (d.nanos / 1000000)).toNat < d.cover :=
    (UInt64.toNat_lt _).trans_le h
  exact if_pos (nanos_ofMillis_lt_iff.mpr hkept)

/-- **Which milliseconds are given for a duration.** Those that cover it, if 64 bits hold them. If
not, what 64 bits leave of the whole milliseconds and one more, unless they leave nothing: then the
overflow is met. So a duration is understated where the milliseconds that cover it do not fit, and
one more than its whole milliseconds is no multiple of two to the 64. -/
theorem ceilMillis_wraps (d : Duration) :
    (∀ millis, d.ceilMillis = .ok millis ↔
        d.cover < Count.bound ∧ millis.toNat = d.cover ∨
          Count.bound ≤ d.cover ∧ millis ≠ 0 ∧
            millis.toNat = (d.nanos / 1000000 + 1) % Count.bound) ∧
      (∀ fault, d.ceilMillis = .error fault ↔
        (Count.bound ≤ d.cover ∧ Count.bound ∣ d.nanos / 1000000 + 1) ∧ fault = .sumOverflow) ∧
      ((∃ millis, d.ceilMillis = .ok millis ∧ (ofMillis millis).nanos < d.nanos) ↔
        Count.bound ≤ d.cover ∧ ¬ Count.bound ∣ d.nanos / 1000000 + 1) := by
  rcases Nat.lt_or_ge d.cover Count.bound with hlt | hge
  · have hnot := Nat.not_le.mpr hlt
    have hok (millis : UInt64) : d.ceilMillis = .ok millis ↔ millis.toNat = d.cover :=
      ceilMillis_of_lt_bound hlt
    have hfits : (UInt64.ofNat d.cover).toNat = d.cover := UInt64.toNat_ofNat_of_lt' hlt
    refine ⟨fun millis => ?_, fun fault => ?_, ?_⟩
    · rw [hok, and_iff_right hlt, or_iff_left fun h => hnot h.1]
    · rw [(hok _).mpr hfits]
      exact iff_of_false nofun fun h => hnot h.1.1
    · refine iff_of_false ?_ fun h => hnot h.1
      rintro ⟨millis, hmillis, hshort⟩
      exact (nanos_ofMillis_lt_iff.mp hshort).ne ((hok millis).mp hmillis)
  · have hnot := Nat.not_lt.mpr hge
    rw [ceilMillis_of_bound_le hge]
    refine ⟨fun millis => ?_, fun fault => ?_, ?_⟩
    · rw [Count.add_one_eq_ok_iff, or_iff_right fun h => hnot h.1, and_iff_right hge]
    · rw [Count.add_one_eq_error_iff, and_iff_right hge]
    · rw [and_iff_right hge]
      constructor
      · rintro ⟨millis, hmillis, -⟩ hdvd
        cases hmillis.symm.trans (Count.add_one_eq_error_iff.mpr ⟨hdvd, rfl⟩)
      · intro hdvd
        cases hsum : Count.add (.ofNat (d.nanos / 1000000)) 1 with
        | error fault => exact absurd (Count.add_one_eq_error_iff.mp hsum).1 hdvd
        | ok millis =>
          exact ⟨millis, rfl, nanos_ofMillis_lt_iff.mpr (millis.toNat_lt.trans_le hge)⟩

/-- The least whole number of seconds that is longer than 64 bits of milliseconds, and what is given
for it: less than half a second. -/
theorem ceilMillis_of_too_long :
    Count.bound ≤ (⟨18446744073709552000000000, by decide⟩ : Duration).cover ∧
      (⟨18446744073709552000000000, by decide⟩ : Duration).ceilMillis = .ok 385 ∧
      (ofMillis 385).nanos < (⟨18446744073709552000000000, by decide⟩ : Duration).nanos := by
  refine ⟨?_, by decide, by decide⟩
  rw [cover_eq]
  decide

end Duration

end DivisionBenchmark

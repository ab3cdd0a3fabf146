import DivisionBenchmark.Count

/-!
# Durations

A duration is a whole number of nanoseconds with at most 64 bits of seconds. Sums and multiples are
checked against that limit.

Main definitions:

* `DivisionBenchmark.Duration`: the durations;
* `DivisionBenchmark.Duration.ofNanos`, `DivisionBenchmark.Duration.ofMillis`: the durations of a
  64-bit number of nanoseconds or milliseconds;
* `DivisionBenchmark.Duration.add`, `DivisionBenchmark.Duration.scale`: checked sum and multiple;
* `DivisionBenchmark.Duration.ceilMillis`: the milliseconds that cover a duration.
-/

namespace DivisionBenchmark

/-- **A duration**, in nanoseconds. -/
@[ext] structure Duration where
  /-- The number of nanoseconds. -/
  nanos : Nat
  /-- The seconds have at most 64 bits. -/
  nanos_lt : nanos < Count.bound * 1000000000
  deriving DecidableEq, Repr

namespace Duration

/-- No time at all. -/
def zero : Duration := ⟨0, by decide⟩

instance : Inhabited Duration := ⟨zero⟩

/-- The duration of a number of nanoseconds, where it is one. -/
def ofNat? (nanos : Nat) : Option Duration :=
  if h : nanos < Count.bound * 1000000000 then some ⟨nanos, h⟩ else none

/-- The duration of a 64-bit number of nanoseconds. -/
def ofNanos (nanos : UInt64) : Duration :=
  ⟨nanos.toNat, by have := nanos.toNat_lt; unfold Count.bound; omega⟩

/-- The duration of a 64-bit number of milliseconds. -/
def ofMillis (millis : UInt64) : Duration :=
  ⟨millis.toNat * 1000000, by have := millis.toNat_lt; unfold Count.bound; omega⟩

/-- The duration as a 64-bit number of nanoseconds, the greatest where it is longer. -/
def toNanos (d : Duration) : UInt64 := UInt64.ofNat (min d.nanos (Count.bound - 1))

/-- The sum of two durations, a fault where it is too long. -/
def add (a b : Duration) : Except Fault Duration :=
  match ofNat? (a.nanos + b.nanos) with
  | some d => .ok d
  | none => .error .durationSumOverflow

/-- A multiple of a duration, a fault where it is too long. -/
def scale (d : Duration) (factor : UInt32) : Except Fault Duration :=
  match ofNat? (d.nanos * factor.toNat) with
  | some product => .ok product
  | none => .error .durationProductOverflow

/-- **The milliseconds that cover a duration.** The whole milliseconds are kept in 64 bits; where
they fall short of the duration one more is added, a fault where 64 bits do not hold it. -/
def ceilMillis (d : Duration) : Except Fault UInt64 :=
  let millis := UInt64.ofNat (d.nanos / 1000000)
  if (ofMillis millis).nanos < d.nanos then Count.add millis 1 else .ok millis

@[simp] theorem nanos_ofNanos (n : UInt64) : (ofNanos n).nanos = n.toNat := rfl

@[simp] theorem nanos_ofMillis (n : UInt64) : (ofMillis n).nanos = n.toNat * 1000000 := rfl

theorem ofNat?_eq_some_iff {n : Nat} {d : Duration} : ofNat? n = some d ↔ n = d.nanos := by
  unfold ofNat?
  split
  · rw [Option.some.injEq, Duration.ext_iff]
  · rename_i h
    have := d.nanos_lt
    simp only [reduceCtorEq, false_iff]
    omega

/-- A checked sum succeeds exactly where the sum of the nanoseconds is a duration, and is it. -/
theorem add_eq_ok_iff {a b c : Duration} : a.add b = .ok c ↔ a.nanos + b.nanos = c.nanos := by
  rw [← ofNat?_eq_some_iff]
  unfold add
  split <;> simp_all

/-- A checked multiple succeeds exactly where the multiple of the nanoseconds is a duration, and
is it. -/
theorem scale_eq_ok_iff {d c : Duration} {factor : UInt32} :
    d.scale factor = .ok c ↔ d.nanos * factor.toNat = c.nanos := by
  rw [← ofNat?_eq_some_iff]
  unfold scale
  split <;> simp_all

/-- 64 bits hold the milliseconds that cover a duration, if they hold its nanoseconds. -/
theorem ceil_lt_bound {d : Duration} (h : d.nanos < Count.bound) :
    (d.nanos + 999999) / 1000000 < Count.bound := by
  unfold Count.bound at *
  omega

/-- The milliseconds that cover a duration are its nanoseconds by the million, rounded up, as long
as 64 bits hold them. -/
theorem ceilMillis_eq_ok {d : Duration} (h : (d.nanos + 999999) / 1000000 < Count.bound) :
    d.ceilMillis = .ok (.ofNat ((d.nanos + 999999) / 1000000)) := by
  have hfloor : d.nanos / 1000000 < Count.bound :=
    Nat.lt_of_le_of_lt (Nat.div_le_div_right (Nat.le_add_right _ _)) h
  have hmillis : (UInt64.ofNat (d.nanos / 1000000)).toNat = d.nanos / 1000000 :=
    UInt64.toNat_ofNat_of_lt' hfloor
  simp only [ceilMillis, nanos_ofMillis, hmillis]
  split
  · rw [Count.add_eq_ok_iff, hmillis, UInt64.toNat_ofNat_of_lt' h, UInt64.toNat_one]
    omega
  · rw [Except.ok.injEq, ← UInt64.toNat_inj, hmillis, UInt64.toNat_ofNat_of_lt' h]
    omega

end Duration

end DivisionBenchmark

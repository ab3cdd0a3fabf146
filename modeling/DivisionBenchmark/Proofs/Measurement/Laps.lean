import DivisionBenchmark.Proofs.Kernel.Succession
import DivisionBenchmark.Proofs.Measurement.Clocked

/-!
# One iteration, as the clock sees it

An iteration takes one reading, and then two for each invocation: how often the operation is invoked
is decided by the clock alone. A *lap* (`DivisionBenchmark.Lap`) is such an iteration seen from the
clock: the reading it begins at, and how many invocations it has. It *ends*
(`DivisionBenchmark.Lap.Ends`) with the first invocation after which its time is over.

Main statement: `DivisionBenchmark.iterate_eq_ok_iff`, an iteration gives what a lap that ends makes
of its buffers and its statistics, and gives nothing else.
-/

namespace DivisionBenchmark

/-! ### Laps -/

/-- **One iteration, as the clock sees it.** -/
structure Lap where
  /-- How many readings the clock has given before. -/
  start : Nat
  /-- How often the operation is invoked. -/
  count : Nat
  deriving DecidableEq, Repr

namespace Lap

/-- How many readings the clock has given after the lap: one, and two for each invocation. -/
def finish (lap : Lap) : Nat := lap.start + 1 + 2 * lap.count

/-- The time from the start of the lap to the end of an invocation, counted from one. -/
def elapsedAfter (clock : Nat → UInt64) (lap : Lap) (n : Nat) : UInt64 :=
  nanosBetween (clock lap.start) (clock (lap.start + 2 * n))

/-- The time from the start of the lap to its end. -/
def elapsed (clock : Nat → UInt64) (lap : Lap) : UInt64 := lap.elapsedAfter clock lap.count

/-- The latencies of so many invocations, from a reading on. -/
def latenciesFrom (clock : Nat → UInt64) : Nat → Nat → List UInt64
  | _, 0 => []
  | taken, n + 1 =>
    nanosBetween (clock taken) (clock (taken + 1)) :: latenciesFrom clock (taken + 2) n

/-- The latencies of the invocations of the lap. -/
def latencies (clock : Nat → UInt64) (lap : Lap) : List UInt64 :=
  latenciesFrom clock (lap.start + 1) lap.count

/-- The lap ends under the clock after more than `done` invocations: with the first of them after
which its time is over. -/
structure EndsBeyond (clock : Nat → UInt64) (budget : UInt64) (done : Nat) (lap : Lap) :
    Prop where
  /-- There is an invocation more. -/
  more : done < lap.count
  /-- After the last invocation the time is over. -/
  late : budget ≤ lap.elapsed clock
  /-- After none of those before was the time over. -/
  early : ∀ n, done < n → n < lap.count → ¬budget ≤ lap.elapsedAfter clock n

/-- **The lap ends under the clock**: with an invocation, and with the first after which its time is
over. -/
abbrev Ends (clock : Nat → UInt64) (budget : UInt64) (lap : Lap) : Prop :=
  lap.EndsBeyond clock budget 0

variable {clock : Nat → UInt64} {budget : UInt64}

theorem endsBeyond_iff {done : Nat} {lap : Lap} :
    lap.EndsBeyond clock budget done ↔ done < lap.count ∧ budget ≤ lap.elapsed clock ∧
      ∀ n < lap.count, done < n → ¬budget ≤ lap.elapsedAfter clock n :=
  ⟨fun h => ⟨h.more, h.late, fun n hn hdone => h.early n hdone hn⟩,
    fun h => ⟨h.1, h.2.1, fun n hdone hn => h.2.2 n hn hdone⟩⟩

instance {done : Nat} {lap : Lap} : Decidable (lap.EndsBeyond clock budget done) :=
  decidable_of_iff _ endsBeyond_iff.symm

/-- Where the time is over after the next invocation, a lap ends with it. -/
theorem endsBeyond_iff_of_over {lap : Lap} {done : Nat}
    (h : budget ≤ lap.elapsedAfter clock (done + 1)) :
    lap.EndsBeyond clock budget done ↔ lap.count = done + 1 := by
  constructor
  · intro hends
    have hmore := hends.more
    rcases Nat.lt_or_ge (done + 1) lap.count with hlt | hge
    · exact absurd h (hends.early (done + 1) (Nat.lt_succ_self done) hlt)
    · omega
  · intro hcount
    refine ⟨by omega, ?_, fun n hdone hn => by omega⟩
    rw [elapsed, hcount]
    exact h

/-- Where the time is not over after the next invocation, a lap goes on. -/
theorem endsBeyond_iff_of_not_over {lap : Lap} {done : Nat}
    (h : ¬budget ≤ lap.elapsedAfter clock (done + 1)) :
    lap.EndsBeyond clock budget done ↔ lap.EndsBeyond clock budget (done + 1) := by
  constructor
  · intro hends
    have hmore := hends.more
    have hne : lap.count ≠ done + 1 := by
      intro hcount
      apply h
      rw [← hcount]
      exact hends.late
    exact ⟨by omega, hends.late, fun n hn => hends.early n (by omega)⟩
  · intro hends
    have hmore := hends.more
    refine ⟨by omega, hends.late, fun n hdone hn => ?_⟩
    rcases Nat.lt_or_eq_of_le (Nat.succ_le_of_lt hdone) with hlt | rfl
    · exact hends.early n hlt hn
    · exact h

theorem length_latenciesFrom (taken n : Nat) : (latenciesFrom clock taken n).length = n := by
  induction n generalizing taken with
  | zero => rfl
  | succ n ih => rw [latenciesFrom, List.length_cons, ih]

/-- Every invocation has a latency. -/
@[simp] theorem length_latencies (lap : Lap) : (lap.latencies clock).length = lap.count :=
  length_latenciesFrom _ _

end Lap

/-! ### Invoking an operation -/

/-- The statistics with these latencies more, one invocation after the other. -/
def Statistics.recordInvocations (s : Statistics) (latencies : List UInt64) : Statistics :=
  latencies.foldl recordInvocation s

section invoking

variable {operation : Operation} {clock : Nat → UInt64} {budget start invocations : UInt64}
  {b b' : Buffers} {statistics : Option Statistics} {room taken : Nat}

/-- An invocation that there is no count for is the last one. -/
theorem under_invokeFor_zero (h : operation.run b = .ok b') :
    (invokeFor operation budget start 0 b statistics invocations).under clock taken =
      (.error (.faulted .sumOverflow), taken + 2) := by
  rw [invokeFor, Measuring.under_bind Measuring.under_now,
    Measuring.under_bind (Measuring.under_ofFault_ok h), Measuring.under_bind Measuring.under_now]
  rfl

/-- An invocation that there is a count for is recorded, and is the last one where the time is
over. -/
theorem under_invokeFor_succ (h : operation.run b = .ok b') :
    (invokeFor operation budget start (room + 1) b statistics invocations).under clock taken =
      if budget ≤ nanosBetween start (clock (taken + 1)) then
        (.ok ⟨b', statistics.map (·.recordInvocation
            (nanosBetween (clock taken) (clock (taken + 1)))),
          .ofNanos (nanosBetween start (clock (taken + 1))), invocations + 1⟩, taken + 2)
      else (invokeFor operation budget start room b' (statistics.map (·.recordInvocation
          (nanosBetween (clock taken) (clock (taken + 1))))) (invocations + 1)).under clock
        (taken + 2) := by
  rw [invokeFor, Measuring.under_bind Measuring.under_now,
    Measuring.under_bind (Measuring.under_ofFault_ok h), Measuring.under_bind Measuring.under_now]
  simp only
  split <;> rfl

/-- A sweep that faults is the end of it. -/
theorem under_invokeFor_error {fault : Fault} (h : operation.run b = .error fault) :
    (invokeFor operation budget start room b statistics invocations).under clock taken =
      (.error (.faulted fault), taken + 1) := by
  rw [invokeFor, Measuring.under_bind Measuring.under_now,
    Measuring.under_bind_error (Measuring.under_ofFault_error h)]

/-- **What invoking an operation leaves**, after `done` invocations of its lap: it goes on to the
end of the lap, provided it can count so far. -/
theorem invokeFor_eq_ok_iff (h : ¬operation.MeetsZero b) (done : Nat) {first reached : Nat}
    {iteration : Iteration} :
    (invokeFor operation budget (clock first) room b statistics (.ofNat done)).under clock
        (first + 1 + 2 * done) = (.ok iteration, reached) ↔
      ∃ lap : Lap, lap.start = first ∧ lap.EndsBeyond clock budget done ∧
        lap.count ≤ done + room ∧ lap.finish = reached ∧
        iteration = ⟨operation.swept b, statistics.map (·.recordInvocations
            (Lap.latenciesFrom clock (first + 1 + 2 * done) (lap.count - done))),
          .ofNanos (lap.elapsed clock), .ofNat lap.count⟩ := by
  induction room generalizing done b statistics with
  | zero =>
    rw [under_invokeFor_zero (Operation.run_eq_ok h)]
    constructor
    · intro hfault
      exact absurd (congrArg Prod.fst hfault) (by simp)
    · rintro ⟨lap, -, hends, hle, -⟩
      exact absurd hends.more (Nat.not_lt.mpr hle)
  | succ room ih =>
    have hafter : first + 1 + 2 * done + 1 = first + 2 * (done + 1) := by omega
    have hreached : first + 1 + 2 * done + 2 = first + 1 + 2 * (done + 1) := by omega
    have hcount : UInt64.ofNat done + 1 = .ofNat (done + 1) := (UInt64.ofNat_add done 1).symm
    rw [under_invokeFor_succ (Operation.run_eq_ok h), hafter, hreached, hcount]
    split
    · rename_i hover
      constructor
      · intro hok
        obtain ⟨hvalue, rfl⟩ := Prod.mk.inj hok
        obtain rfl := Except.ok.inj hvalue
        refine ⟨⟨first, done + 1⟩, rfl, (Lap.endsBeyond_iff_of_over hover).mpr rfl, ?_, rfl, ?_⟩
        · show done + 1 ≤ done + (room + 1)
          omega
        rw [Nat.add_sub_cancel_left, Lap.latenciesFrom, hafter]
        rfl
      · rintro ⟨⟨_, count⟩, rfl, hends, hle, rfl, rfl⟩
        obtain rfl : count = done + 1 := (Lap.endsBeyond_iff_of_over hover).mp hends
        rw [Nat.add_sub_cancel_left, Lap.latenciesFrom, hafter]
        rfl
    · rename_i hgoes
      rw [ih (mt Operation.meetsZero_swept.mp h) (done + 1), Operation.swept_again]
      refine exists_congr fun lap => and_congr_right fun hstart => ?_
      subst hstart
      rw [Lap.endsBeyond_iff_of_not_over hgoes, show done + 1 + room = done + (room + 1) by omega]
      refine and_congr_right fun hends => ?_
      -- one invocation less is to come
      obtain ⟨n, hn⟩ : ∃ n, lap.count - done = n + 1 :=
        Nat.exists_eq_succ_of_ne_zero (by have := hends.more; omega)
      rw [hn, show lap.count - (done + 1) = n by omega, Lap.latenciesFrom, hafter, hreached,
        Option.map_map]
      rfl

/-- What an iteration leaves whose lap this is. -/
def Lap.iteration (clock : Nat → UInt64) (operation : Operation) (b : Buffers)
    (statistics : Option Statistics) (lap : Lap) : Iteration :=
  ⟨operation.swept b, statistics.map (·.recordInvocations (lap.latencies clock)),
    .ofNanos (lap.elapsed clock), .ofNat lap.count⟩

/-- **An iteration gives a value** exactly where its sweeps meet no zero and a lap from here on ends
that can be counted, and then what this lap leaves. -/
theorem iterate_eq_ok_iff {time : Duration} {reached : Nat} {iteration : Iteration} :
    (iterate operation b time statistics).under clock taken = (.ok iteration, reached) ↔
      ¬operation.MeetsZero b ∧ ∃ lap : Lap, lap.start = taken ∧ lap.Ends clock time.toNanos ∧
        lap.count < Count.bound ∧ lap.finish = reached ∧
        iteration = lap.iteration clock operation b statistics := by
  have hcounted (count : Nat) : count ≤ 0 + (Count.bound - 1) ↔ count < Count.bound := by
    rw [Nat.zero_add]
    exact (Nat.lt_iff_le_pred (by decide)).symm
  rw [iterate, Measuring.under_bind Measuring.under_now]
  by_cases h : operation.MeetsZero b
  · have hfault : (invokeFor operation time.toNanos (clock taken) (Count.bound - 1) b statistics
        0).under clock (taken + 1) = (.error (.faulted operation.zeroFault), taken + 2) :=
      under_invokeFor_error (Operation.run_eq_error h)
    rw [hfault]
    constructor
    · intro hok
      exact absurd (congrArg Prod.fst hok) (by simp)
    · rintro ⟨hnot, -⟩
      exact absurd h hnot
  · refine (invokeFor_eq_ok_iff h 0).trans ?_
    constructor
    · rintro ⟨lap, rfl, hends, hle, hfinish, hvalue⟩
      exact ⟨h, lap, rfl, hends, (hcounted _).mp hle, hfinish, hvalue⟩
    · rintro ⟨-, lap, rfl, hends, hlt, hfinish, hvalue⟩
      exact ⟨lap, rfl, hends, (hcounted _).mpr hlt, hfinish, hvalue⟩

end invoking

end DivisionBenchmark

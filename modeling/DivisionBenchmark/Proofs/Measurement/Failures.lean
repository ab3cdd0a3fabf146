import DivisionBenchmark.Proofs.Kernel.History
import DivisionBenchmark.Proofs.Measurement.Clocked

/-!
# How a measurement fails

Whatever the clock does, a measurement of a trial that has operand pairs, and no more than can be
kept, fails for one reason: a count or a time became too great. It meets no divisor that is zero,
since its buffers never have one, and it is never rejected for its buffer size.

A trial with more operand pairs than can be kept fails at once, and its failure names it.

Main statements:

* `DivisionBenchmark.Runner.measure_yields`: all failures of a trial that is set up;
* `DivisionBenchmark.Runner.under_measure_error`: the failure of a trial that is not.
-/

namespace DivisionBenchmark

/-! ### Overflows -/

/-- A sum that became too great, of counts or of times. -/
def Fault.Overflow (fault : Fault) : Prop := fault = .sumOverflow ∨ fault = .durationSumOverflow

/-- **A failure by overflow**: of the computation, or of a trial whose faults are caught. -/
inductive Failure.Overflow : Failure → Prop
  /-- The computation was abandoned. -/
  | faulted {fault : Fault} (h : fault.Overflow) : Overflow (.faulted fault)
  /-- A trial was abandoned. -/
  | panicked {fault : Fault} (operation : String) (trial : Nat) (h : fault.Overflow) :
    Overflow (.rejected (.trialPanicked operation trial fault.message))

theorem Count.overflow_of_add_eq_error {a b : UInt64} {fault : Fault}
    (h : add a b = .error fault) : fault.Overflow := by
  rw [add] at h
  split at h
  · exact absurd h (by simp)
  · exact .inl (Except.error.inj h).symm

theorem Duration.overflow_of_add_eq_error {a b : Duration} {fault : Fault}
    (h : a.add b = .error fault) : fault.Overflow := by
  rw [add] at h
  split at h
  · exact absurd h (by simp)
  · exact .inr (Except.error.inj h).symm

namespace Statistics

/-- Where a count and a time are summed up, an overflow is the only fault. -/
theorem overflow_of_sums_eq_error {α : Type} {a b : UInt64} {x y : Duration}
    {f : UInt64 → Duration → α} {fault : Fault}
    (h : (do
      let count ← Count.add a b
      let time ← x.add y
      return f count time : Except Fault α) = .error fault) : fault.Overflow := by
  cases hcount : Count.add a b with
  | error fault' =>
    rw [hcount] at h
    obtain rfl := Except.error.inj h
    exact Count.overflow_of_add_eq_error hcount
  | ok count =>
    rw [hcount] at h
    cases htime : x.add y with
    | error fault' =>
      rw [htime] at h
      obtain rfl := Except.error.inj h
      exact Duration.overflow_of_add_eq_error htime
    | ok time =>
      rw [htime] at h
      exact absurd h (by simp [bind, Except.bind, pure, Except.pure])

theorem overflow_of_recordIteration_eq_error {s : Statistics} {elapsed : Duration}
    {invocations : UInt64} {fault : Fault}
    (h : s.recordIteration elapsed invocations = .error fault) : fault.Overflow :=
  overflow_of_sums_eq_error h

theorem overflow_of_merge_eq_error {s other : Statistics} {fault : Fault}
    (h : s.merge other = .error fault) : fault.Overflow :=
  overflow_of_sums_eq_error h

end Statistics

/-! ### Trials that are set up -/

section invoking

variable {operation : Operation} {b : Buffers}

/-- Buffers with no zero among the divisors are swept, and have none afterwards. -/
theorem run_yields (h : 0 ∉ b.divisors) :
    (Measuring.ofFault (operation.run b)).Yields (fun b' => 0 ∉ b'.divisors)
      Failure.Overflow := by
  rw [Operation.run_eq_ok (operation.not_meetsZero h)]
  exact Measuring.yields_pure h

/-- However often an operation is invoked, only a count that runs over keeps it from its end. -/
theorem invokeFor_yields {budget start invocations : UInt64} {room : Nat}
    {statistics : Option Statistics} (h : 0 ∉ b.divisors) :
    (invokeFor operation budget start room b statistics invocations).Yields
      (fun iteration => 0 ∉ iteration.buffers.divisors) Failure.Overflow := by
  induction room generalizing b statistics invocations with
  | zero =>
    rw [invokeFor]
    refine Measuring.yields_now.bind fun before _ => (run_yields h).bind fun b' hb' => ?_
    exact Measuring.yields_now.bind fun after _ => Measuring.yields_throw (.faulted (.inl rfl))
  | succ room ih =>
    rw [invokeFor]
    refine Measuring.yields_now.bind fun before _ => (run_yields h).bind fun b' hb' => ?_
    refine Measuring.yields_now.bind fun after _ => ?_
    simp only
    split
    · exact Measuring.yields_pure hb'
    · exact ih hb'

theorem iterate_yields {time : Duration} {statistics : Option Statistics} (h : 0 ∉ b.divisors) :
    (iterate operation b time statistics).Yields
      (fun iteration => 0 ∉ iteration.buffers.divisors) Failure.Overflow :=
  Measuring.yields_now.bind fun _ _ => invokeFor_yields h

end invoking

namespace Runner

variable {runner : Runner} {trial : Trial} {operation : Operation} {b : Buffers}

theorem warmUp_yields {n : Nat} (h : 0 ∉ b.divisors) :
    (runner.warmUp operation n b).Yields (fun b' => 0 ∉ b'.divisors) Failure.Overflow := by
  induction n generalizing b with
  | zero => exact Measuring.yields_pure h
  | succ n ih => exact (iterate_yields h).bind fun _ hiteration => ih hiteration

theorem measureIterations_yields {n : Nat} {s : Statistics} (h : 0 ∉ b.divisors) :
    (runner.measureIterations operation n b s).Yields (fun _ => True) Failure.Overflow := by
  induction n generalizing b s with
  | zero => exact Measuring.yields_pure trivial
  | succ n ih =>
    refine (iterate_yields h).bind fun iteration hiteration => ?_
    refine (Measuring.yields_ofFault (fun _ _ => trivial) fun fault hfault => ?_).bind
      fun _ _ => ih hiteration
    exact .faulted (Statistics.overflow_of_recordIteration_eq_error hfault)

theorem runTrial_yields (hpos : trial.bufferSize ≠ 0)
    (hcap : trial.bufferSize.toNat < Count.capacity) :
    (runner.runTrial trial operation).Yields (fun _ => True) Failure.Overflow := by
  obtain ⟨b, hb, hfresh⟩ := Buffers.setup_eq_ok hpos hcap
  have hset : (Measuring.ofExcept (Buffers.setup trial)).Yields (fun b => 0 ∉ b.divisors)
      Failure.Overflow := by
    rw [hb]
    exact Measuring.yields_pure hfresh.divisors
  refine hset.bind fun _ hdivisors => ?_
  exact (warmUp_yields hdivisors).bind fun _ hwarm => measureIterations_yields hwarm

theorem runIsolated_yields {index : Nat} (hpos : trial.bufferSize ≠ 0)
    (hcap : trial.bufferSize.toNat < Count.capacity) :
    (runner.runIsolated trial operation index).Yields (fun _ => True) Failure.Overflow := by
  refine (runTrial_yields hpos hcap).tryCatch fun failure hfailure => ?_
  cases hfailure with
  | faulted h => exact Measuring.yields_throw (.panicked _ _ h)
  | panicked _ _ h => exact Measuring.yields_throw (.panicked _ _ h)

theorem measureTrials_yields {n index : Nat} {s : Statistics} (hpos : trial.bufferSize ≠ 0)
    (hcap : trial.bufferSize.toNat < Count.capacity) :
    (runner.measureTrials trial operation n index s).Yields (fun _ => True)
      Failure.Overflow := by
  induction n generalizing index s with
  | zero => exact Measuring.yields_pure trivial
  | succ n ih =>
    refine (runIsolated_yields hpos hcap).bind fun measured _ => ?_
    refine (Measuring.yields_ofFault (fun _ _ => trivial) fun fault hfault => ?_).bind
      fun _ _ => ih
    exact .faulted (Statistics.overflow_of_merge_eq_error hfault)

/-- **A measurement that is set up fails by overflow only**, under any clock. -/
theorem measure_yields (hpos : trial.bufferSize ≠ 0)
    (hcap : trial.bufferSize.toNat < Count.capacity) :
    (runner.measure trial operation).Yields (fun _ => True) Failure.Overflow :=
  (measureTrials_yields hpos hcap).bind fun _ _ => Measuring.yields_pure trivial

/-! ### Trials that are not set up -/

/-- How a trial fails whose operand pairs cannot be kept. -/
def unkept (operation : Operation) (index : Nat) : Failure :=
  .rejected (.trialPanicked operation.name index Fault.capacityOverflow.message)

variable {clock : Nat → UInt64} {taken : Nat}

/-- A trial with too many operand pairs fails before it reads the clock. -/
theorem under_runIsolated_error {index : Nat} (hcap : Count.capacity ≤ trial.bufferSize.toNat) :
    (runner.runIsolated trial operation index).under clock taken =
      (.error (unkept operation index), taken) := by
  have hrun : (runner.runTrial trial operation).under clock taken =
      (.error (.faulted .capacityOverflow), taken) :=
    Measuring.under_bind_error (Measuring.under_ofExcept_eq (Buffers.setup_eq_error hcap))
  exact Measuring.under_tryCatch_error hrun

/-- **A measurement of too many operand pairs fails with its first trial.** -/
theorem under_measure_error (htrials : runner.trials ≠ 0)
    (hcap : Count.capacity ≤ trial.bufferSize.toNat) :
    (runner.measure trial operation).under clock taken =
      (.error (unkept operation 0), taken) := by
  obtain ⟨n, hn⟩ : ∃ n, runner.trials.toNat = n + 1 :=
    Nat.exists_eq_succ_of_ne_zero fun hzero => htrials (UInt64.toNat_inj.mp hzero)
  rw [measure, hn]
  exact Measuring.under_bind_error
    (Measuring.under_bind_error (under_runIsolated_error hcap))

end Runner

end DivisionBenchmark

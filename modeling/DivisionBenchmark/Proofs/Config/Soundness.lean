import DivisionBenchmark.Config.Validity
import DivisionBenchmark.Proofs.Measurement.Accounting
import DivisionBenchmark.Proofs.Measurement.Failures

/-!
# What a valid configuration can still meet

Validity is decided before anything is measured, and nothing but the clock and the want of room can
go wrong afterwards: a valid configuration has a runner, its sweep measures what the workload asks
for, and it is never rejected for a buffer size of zero or for its cores, and meets no divisor that
is zero.

There are two things validity does not look at. One is how many operand pairs can be kept: the sweep
of a workload that asks for more is measured up to the first trial with too many, and fails there
with the first trial of the first operation. The other is how many results can be kept: a workload
may name the same again and again, and where its lists are long enough its sweep is abandoned before
the first trial (`DivisionBenchmark.Config.not_sweep_of_validate`).

Main statement: `DivisionBenchmark.Config.sweep_of_validate`.
-/

namespace DivisionBenchmark

/-! ### What a sweep comes to -/

namespace Workload

variable {w : Workload}

/-- Whether the operand pairs of a trial can be kept. -/
def kept (pair : Trial × Operation) : Bool := pair.1.bufferSize.toNat < Count.capacity

/-- **What a sweep measures before it meets a trial with too many operand pairs.** -/
def measurable (w : Workload) : List (Trial × Operation) := w.pairs.takeWhile kept

/-- Where no buffer is too long, a sweep measures everything. -/
theorem measurable_eq_pairs (h : ∀ size ∈ w.bufferSizes, size.toNat < Count.capacity) :
    w.measurable = w.pairs := by
  have hall : ∀ pair ∈ w.pairs, kept pair = true := by
    rintro ⟨trial, operation⟩ hpair
    have htrial := (mem_pairs_iff.mp hpair).1
    exact decide_eq_true (h _ (mem_trials_iff.mp htrial).2)
  have htake : (w.pairs ++ []).takeWhile kept = w.pairs ++ [] :=
    List.takeWhile_append_of_pos hall
  rwa [List.append_nil] at htake

/-- The pairs of trials that are not all kept: those that are kept, and then the first operation
under a trial that is not. -/
theorem exists_flatMap_eq (operation : Operation) (operations : List Operation)
    {trials : List Trial} (hlong : ∃ trial ∈ trials, Count.capacity ≤ trial.bufferSize.toNat) :
    ∃ trial rest, Count.capacity ≤ trial.bufferSize.toNat ∧
      (trials.flatMap fun trial => (operation :: operations).map (Prod.mk trial)) =
        (trials.flatMap fun trial => (operation :: operations).map (Prod.mk trial)).takeWhile
          kept ++ (trial, operation) :: rest := by
  induction trials with
  | nil =>
    obtain ⟨trial, htrial, -⟩ := hlong
    exact absurd htrial List.not_mem_nil
  | cons trial trials ih =>
    rw [List.flatMap_cons]
    by_cases hkept : trial.bufferSize.toNat < Count.capacity
    · have hall : ∀ pair ∈ (operation :: operations).map (Prod.mk trial), kept pair = true := by
        intro pair hpair
        obtain ⟨o, -, rfl⟩ := List.mem_map.mp hpair
        exact decide_eq_true hkept
      have hrest : ∃ trial ∈ trials, Count.capacity ≤ trial.bufferSize.toNat := by
        obtain ⟨trial', htrial', hlong⟩ := hlong
        rcases List.mem_cons.mp htrial' with rfl | htail
        · exact absurd hkept (Nat.not_lt.mpr hlong)
        · exact ⟨trial', htail, hlong⟩
      obtain ⟨first, rest, hfirst, heq⟩ := ih hrest
      refine ⟨first, rest, hfirst, ?_⟩
      rw [List.takeWhile_append_of_pos hall, List.append_assoc, ← heq]
    · refine ⟨trial, operations.map (Prod.mk trial) ++
        trials.flatMap fun trial => (operation :: operations).map (Prod.mk trial),
        Nat.not_lt.mp hkept, ?_⟩
      rw [List.map_cons, List.cons_append, List.takeWhile_cons_of_neg, List.nil_append]
      exact fun h => hkept (of_decide_eq_true h)

/-- **Where a buffer is too long, a sweep comes to it with the first operation.** -/
theorem exists_pairs_eq (hkinds : w.divisorTypes ≠ []) (hoperations : w.operations ≠ [])
    (hlong : ∃ size ∈ w.bufferSizes, Count.capacity ≤ size.toNat) :
    ∃ trial operation rest, w.operations.head? = some operation ∧
      Count.capacity ≤ trial.bufferSize.toNat ∧
      w.pairs = w.measurable ++ (trial, operation) :: rest := by
  obtain ⟨kind, kinds, hkind⟩ := List.exists_cons_of_ne_nil hkinds
  obtain ⟨operation, operations, hoperation⟩ := List.exists_cons_of_ne_nil hoperations
  obtain ⟨size, hsize, hlong⟩ := hlong
  have htrial : ⟨kind, size⟩ ∈ w.trials :=
    mem_trials_iff.mpr ⟨hkind ▸ List.mem_cons_self, hsize⟩
  obtain ⟨trial, rest, hfirst, hpairs⟩ :=
    exists_flatMap_eq operation operations ⟨_, htrial, hlong⟩
  rw [← hoperation] at hpairs
  exact ⟨trial, operation, rest, congrArg List.head? hoperation, hfirst, hpairs⟩

/-- A sweep comes to no empty buffer where there is none. -/
theorem bufferSize_ne_zero {pair : Trial × Operation} (h : 0 ∉ w.bufferSizes)
    (hpair : pair ∈ w.pairs) : pair.1.bufferSize ≠ 0 := by
  intro hzero
  have htrial := (mem_pairs_iff.mp hpair).1
  exact h (hzero ▸ (mem_trials_iff.mp htrial).2)

theorem mem_measurable {pair : Trial × Operation} (h : pair ∈ w.measurable) :
    pair ∈ w.pairs ∧ pair.1.bufferSize.toNat < Count.capacity := by
  refine ⟨(List.takeWhile_prefix _).mem h, ?_⟩
  exact of_decide_eq_true (List.all_eq_true.mp List.all_takeWhile pair h)

end Workload

/-! ### Sweeps -/

/-- **A timetable of a sweep**: one for each measurement, up to the first trial with too many
operand pairs. -/
structure Runner.SweepTimetable (runner : Runner) (workload : Workload) (clock : Nat → UInt64)
    (taken : Nat) (tables : List (List TrialLaps)) (finish : Nat) : Prop where
  /-- There is one for each measurement. -/
  length : tables.length = workload.measurable.length
  /-- The measurements follow one another. -/
  consecutive : Chained (runner.Timetable clock) taken tables finish

namespace Runner

variable {runner : Runner} {clock : Nat → UInt64} {taken finish : Nat}

/-- The measurements of a sweep, one for each pair. -/
theorem under_mapM_measure {tables : List (List TrialLaps)} {pairs : List (Trial × Operation)}
    (hpairs : ∀ pair ∈ pairs, pair.1.bufferSize ≠ 0 ∧
      pair.1.bufferSize.toNat < Count.capacity)
    (htables : Chained (runner.Timetable clock) taken tables finish)
    (hlength : tables.length = pairs.length) :
    ∃ results, (pairs.mapM fun (trial, operation) => runner.measure trial operation).under clock
        taken = (.ok results, finish) ∧
      results.map (fun result => (result.trial, result.operation)) = pairs := by
  induction htables generalizing pairs with
  | nil =>
    obtain rfl : pairs = [] := List.eq_nil_of_length_eq_zero hlength.symm
    exact ⟨[], rfl, rfl⟩
  | @cons _ _ _ table tables head tail ih =>
    obtain _ | ⟨⟨trial, operation⟩, pairs⟩ := pairs
    · exact absurd hlength (Nat.succ_ne_zero _)
    · obtain ⟨hpos, hcap⟩ := hpairs _ List.mem_cons_self
      obtain ⟨t, ht, -⟩ := under_measure operation hpos hcap head
      obtain ⟨results, hresults, hmap⟩ := ih (fun pair hpair => hpairs pair (.tail _ hpair))
        (Nat.succ.inj hlength)
      refine ⟨⟨operation, trial, t⟩ :: results, ?_, congrArg ((trial, operation) :: ·) hmap⟩
      rw [List.mapM_cons, Measuring.under_bind ht, Measuring.under_bind hresults]
      rfl

/-- Settings that pass have a runner, and it has a trial to run. -/
theorem exists_ofSettings {settings : RunnerSettings} {available : Nat}
    (h : settings.validate available = .ok ()) :
    ∃ runner, ofSettings settings = .ok runner ∧ runner.trials ≠ 0 := by
  obtain ⟨-, htrials, -, hcores⟩ := RunnerSettings.validate_eq_ok_iff.mp h
  have hcores := RunnerSettings.validateCores_eq_ok_iff.mp hcores
  cases htext : settings.cpuCores with
  | none => exact ⟨_, by rw [ofSettings, htext]; rfl, htrials⟩
  | some text =>
    obtain ⟨cores, hparse, -⟩ := hcores text htext
    exact ⟨_, ofSettings_of_parse htext hparse, htrials⟩

variable {w : Workload} {resultSize : Nat}

/-- **A sweep whose buffers can all be kept** measures everything, under a timetable. -/
theorem under_runSweep_ok (hroom : w.reserve resultSize = .ok ()) (hpositive : 0 ∉ w.bufferSizes)
    (hkept : ∀ size ∈ w.bufferSizes, size.toNat < Count.capacity) {tables : List (List TrialLaps)}
    (htable : runner.SweepTimetable w clock taken tables finish) :
    ∃ results, (runner.runSweep w resultSize).under clock taken = (.ok results, finish) ∧
      results.map (fun result => (result.trial, result.operation)) = w.pairs := by
  have hall := Workload.measurable_eq_pairs hkept
  rw [under_runSweep hroom]
  refine under_mapM_measure (fun pair hpair => ?_) htable.consecutive (hall ▸ htable.length)
  exact ⟨Workload.bufferSize_ne_zero hpositive hpair, (Workload.mem_measurable (hall ▸ hpair)).2⟩

section unkept

variable {trial : Trial} {operation : Operation} {rest : List (Trial × Operation)}

/-- Measurements end with one of too many operand pairs. -/
theorem under_mapM_measure_error (htrials : runner.trials ≠ 0)
    (hlong : Count.capacity ≤ trial.bufferSize.toNat) (rest : List (Trial × Operation)) :
    (((trial, operation) :: rest).mapM fun pair => runner.measure pair.1 pair.2).under clock
      taken = (.error (unkept operation 0), taken) := by
  rw [List.mapM_cons]
  exact Measuring.under_bind_error (under_measure_error htrials hlong)

/-- **A sweep with too many operand pairs somewhere** ends there, under a timetable. -/
theorem under_runSweep_error (hroom : w.reserve resultSize = .ok ()) (hpositive : 0 ∉ w.bufferSizes)
    (htrials : runner.trials ≠ 0) (hpairs : w.pairs = w.measurable ++ (trial, operation) :: rest)
    (hlong : Count.capacity ≤ trial.bufferSize.toNat) {tables : List (List TrialLaps)}
    (htable : runner.SweepTimetable w clock taken tables finish) :
    (runner.runSweep w resultSize).under clock taken = (.error (unkept operation 0), finish) := by
  obtain ⟨results, hresults, -⟩ := under_mapM_measure (fun pair hpair =>
    have hmeasurable := Workload.mem_measurable hpair
    ⟨Workload.bufferSize_ne_zero hpositive hmeasurable.1, hmeasurable.2⟩)
    htable.consecutive htable.length
  rw [under_runSweep hroom, hpairs, List.mapM_append, Measuring.under_bind hresults]
  exact Measuring.under_bind_error (under_mapM_measure_error htrials hlong rest)

/-- What a sweep measures up to the first trial with too many operand pairs fails by overflow only,
and then it ends with that trial. -/
theorem mapM_measure_yields (hpositive : 0 ∉ w.bufferSizes) (htrials : runner.trials ≠ 0)
    (hpairs : w.pairs = w.measurable ++ (trial, operation) :: rest)
    (hlong : Count.capacity ≤ trial.bufferSize.toNat) :
    (w.pairs.mapM fun pair => runner.measure pair.1 pair.2).Yields (fun _ => True) fun failure =>
      failure.Overflow ∨ failure = unkept operation 0 := by
  rw [hpairs, List.mapM_append]
  refine (Measuring.yields_mapM fun pair hpair => ?_).bind fun _ _ => ?_
  · obtain ⟨hmem, hcap⟩ := Workload.mem_measurable hpair
    exact (measure_yields (Workload.bufferSize_ne_zero hpositive hmem) hcap).mono
      (fun _ => id) fun _ => .inl
  · intro clock taken
    rw [Measuring.under_bind_error (under_mapM_measure_error htrials hlong rest)]
    exact .inr rfl

end unkept

/-- **All failures of a sweep that has room for its results**: overflows, and the first trial of the
first operation where a buffer is too long. -/
theorem failure_of_runSweep (hroom : w.reserve resultSize = .ok ()) (hkinds : w.divisorTypes ≠ [])
    (hoperations : w.operations ≠ []) (hpositive : 0 ∉ w.bufferSizes) (htrials : runner.trials ≠ 0)
    {failure : Failure}
    (hfail : (runner.runSweep w resultSize).under clock taken = (.error failure, finish)) :
    failure.Overflow ∨ (∃ size ∈ w.bufferSizes, Count.capacity ≤ size.toNat) ∧
      ∃ operation, w.operations.head? = some operation ∧ failure = unkept operation 0 := by
  rw [under_runSweep hroom] at hfail
  by_cases hlong : ∃ size ∈ w.bufferSizes, Count.capacity ≤ size.toNat
  · obtain ⟨trial, operation, rest, hhead, hbad, hpairs⟩ :=
      Workload.exists_pairs_eq hkinds hoperations hlong
    rcases (mapM_measure_yields hpositive htrials hpairs hbad).of_error hfail with hover | hunkept
    · exact .inl hover
    · exact .inr ⟨hlong, operation, hhead, hunkept⟩
  · have hkept : ∀ size ∈ w.bufferSizes, size.toNat < Count.capacity :=
      fun size hsize => Nat.lt_of_not_le fun hle => hlong ⟨size, hsize, hle⟩
    have hall := Workload.measurable_eq_pairs hkept
    have hyields : (w.pairs.mapM fun pair => runner.measure pair.1 pair.2).Yields (fun _ => True)
        Failure.Overflow := Measuring.yields_mapM fun pair hpair =>
      have hmeasurable := Workload.mem_measurable (hall ▸ hpair)
      measure_yields (Workload.bufferSize_ne_zero hpositive hpair) hmeasurable.2
    exact .inl (hyields.of_error hfail)

end Runner

/-! ### Valid configurations -/

/-- **What a valid configuration can still meet.** It has a runner. Where its results find no room,
because their number has no count or their bytes cannot be addressed, its sweep is abandoned before
anything is measured. Otherwise it measures every operation under every trial, under a timetable,
unless a buffer is too long to be kept: then it ends with the first trial of the first operation,
which is abandoned for that reason. Whatever the clock does, it fails in no other way but by
overflow. -/
theorem Config.sweep_of_validate {config : Config} {host : Host}
    (h : config.validate host = .ok ()) (resultSize : Nat) :
    ∃ runner, Runner.ofSettings config.runner = .ok runner ∧
      (Count.bound ≤ config.workload.benchmarks → ∀ clock taken,
        (runner.runSweep config.workload resultSize).under clock taken =
          (.error (.faulted .productOverflow), taken)) ∧
      (config.workload.benchmarks < Count.bound →
        Count.addressable < config.workload.benchmarks * resultSize → ∀ clock taken,
          (runner.runSweep config.workload resultSize).under clock taken =
            (.error (.faulted .capacityOverflow), taken)) ∧
      (config.workload.benchmarks < Count.bound →
        config.workload.benchmarks * resultSize ≤ Count.addressable →
          (∀ clock taken tables finish,
            runner.SweepTimetable config.workload clock taken tables finish →
              ((∀ size ∈ config.workload.bufferSizes, size.toNat < Count.capacity) →
                ∃ results, (runner.runSweep config.workload resultSize).under clock taken =
                    (.ok results, finish) ∧
                  results.map (fun result => (result.trial, result.operation)) =
                    config.workload.pairs) ∧
              ((∃ size ∈ config.workload.bufferSizes, Count.capacity ≤ size.toNat) →
                ∃ operation, config.workload.operations.head? = some operation ∧
                  (runner.runSweep config.workload resultSize).under clock taken =
                    (.error (.rejected (.trialPanicked operation.name 0 "capacity overflow")),
                      finish))) ∧
          ∀ clock taken failure reached,
            (runner.runSweep config.workload resultSize).under clock taken =
                (.error failure, reached) →
              failure.Overflow ∨
                (∃ size ∈ config.workload.bufferSizes, Count.capacity ≤ size.toNat) ∧
                  ∃ operation, config.workload.operations.head? = some operation ∧
                    failure =
                      .rejected (.trialPanicked operation.name 0 "capacity overflow")) := by
  obtain ⟨hworkload, hrunner, -⟩ := Config.validate_eq_ok_iff.mp h
  obtain ⟨hkinds, -, hpositive, hoperations⟩ := Workload.validate_eq_ok_iff.mp hworkload
  obtain ⟨runner, hof, htrials⟩ := Runner.exists_ofSettings hrunner
  refine ⟨runner, hof, fun hmany clock taken => ?_, fun hcount hmuch clock taken => ?_,
    fun hcount hbytes => ?_⟩
  · exact Runner.under_runSweep_of_fault (Workload.reserve_of_uncountable resultSize hmany)
  · exact Runner.under_runSweep_of_fault (Workload.reserve_of_unaddressable hcount hmuch)
  have hroom : config.workload.reserve resultSize = .ok () :=
    Workload.reserve_eq_ok_iff.mpr ⟨hcount, hbytes⟩
  refine ⟨fun clock taken tables finish htable => ⟨fun hkept => ?_, fun hlong => ?_⟩,
    fun clock taken failure reached hfail => ?_⟩
  · exact Runner.under_runSweep_ok hroom hpositive hkept htable
  · obtain ⟨trial, operation, rest, hhead, hbad, hpairs⟩ :=
      Workload.exists_pairs_eq hkinds hoperations hlong
    exact ⟨operation, hhead,
      Runner.under_runSweep_error hroom hpositive htrials hpairs hbad htable⟩
  · exact Runner.failure_of_runSweep hroom hkinds hoperations hpositive htrials hfail

/-- One of two buffers is too long: the operations are measured under the other one, then the sweep
ends. Its clock shows a millisecond more with each reading, and a result takes 160 bytes. -/
theorem Config.sweep_of_validate_of_long_buffer :
    ∃ runner, Runner.ofSettings ⟨0, 1, 1, 1, some "0-1"⟩ = .ok runner ∧
      (runner.runSweep ⟨[.positive], [2, 1152921504606846976],
          [.remainderUnsigned, .divideUnsigned]⟩ 160).under (fun n => .ofNat (n * 1000000)) 0 =
        (.error (.rejected (.trialPanicked "remainderUnsigned" 0 "capacity overflow")), 6) := by
  have hvalid : Config.validate ⟨⟨[.positive], [2, 1152921504606846976],
      [.remainderUnsigned, .divideUnsigned]⟩, ⟨0, 1, 1, 1, some "0-1"⟩, {}⟩
      ⟨4, ⟨fun _ => .error .notFound, fun _ => false, fun _ => .ok ()⟩⟩ = .ok () := rfl
  obtain ⟨runner, hof, -, -, hsweep⟩ := Config.sweep_of_validate hvalid 160
  have hcores : CoreList.coresOf [⟨0, 2⟩] = [0, 1] := by
    rw [CoreList.coresOf, List.mergeSort_of_pairwise (by decide)]
    rfl
  have hrunner : Runner.ofSettings ⟨0, 1, 1, 1, some "0-1"⟩ =
      .ok ⟨0, 1, .ofMillis 1, 1, some [0, 1]⟩ := by
    rw [← hcores]
    rfl
  obtain rfl := Except.ok.inj (hrunner.symm.trans hof)
  have htable (start : Nat) (hends : Lap.Ends (fun n => .ofNat (n * 1000000)) 1000000 ⟨start, 1⟩)
      (hfit : Lap.Fit (fun n => .ofNat (n * 1000000)) [⟨start, 1⟩]) :
      Runner.Timetable ⟨0, 1, .ofMillis 1, 1, some [0, 1]⟩ (fun n => .ofNat (n * 1000000)) start
        [⟨[], [⟨start, 1⟩]⟩] (start + 3) :=
    .of_lap rfl rfl rfl hends hfit
  have hfirst := htable 0 (by decide) ⟨by decide, by decide⟩
  have hsecond := htable 3 (by decide) ⟨by decide, by decide⟩
  obtain ⟨hmeasured, -⟩ := hsweep (by decide) (by decide)
  obtain ⟨-, hlong⟩ := hmeasured _ 0 _ 6 ⟨rfl, .cons hfirst (.cons hsecond .nil)⟩
  obtain ⟨operation, hhead, hfail⟩ := hlong ⟨1152921504606846976, by decide, by decide⟩
  obtain rfl := Option.some.inj hhead
  exact ⟨_, hof, hfail⟩

/-! ### Results without room -/

namespace Runner

/-- A clock under which an iteration of a millisecond ends with its first invocation. -/
def pulse (n : Nat) : UInt64 := .ofNat (n % 3 * 1000000)

theorem nanosBetween_pulse {start : Nat} (h : start % 3 = 0) :
    nanosBetween (pulse start) (pulse (start + 2)) = 2000000 := by
  have hnext : (start + 2) % 3 = 2 := by omega
  rw [pulse, pulse, h, hnext]
  rfl

theorem timetable_pulse {start : Nat} (h : start % 3 = 0) :
    Timetable ⟨0, 1, .ofMillis 1, 1, none⟩ pulse start [⟨[], [⟨start, 1⟩]⟩] (start + 3) := by
  have helapsed : (Lap.mk start 1).elapsed pulse = 2000000 := nanosBetween_pulse h
  have hends : (Lap.mk start 1).Ends pulse 1000000 := by
    refine ⟨Nat.zero_lt_one, ?_, fun n hpos hlt => absurd hlt (Nat.not_lt.mpr hpos)⟩
    rw [helapsed]
    decide
  have hfit : Lap.Fit pulse [⟨start, 1⟩] := by
    refine ⟨(by decide : 1 < Count.bound), ?_⟩
    rw [Lap.time_singleton, helapsed]
    decide
  exact .of_lap rfl rfl rfl hends hfit

/-- Under this clock every sweep has a timetable, since a measurement leaves the clock where the
next one can begin. -/
theorem exists_sweepTimetable_pulse (w : Workload) :
    ∃ tables finish, SweepTimetable ⟨0, 1, .ofMillis 1, 1, none⟩ w pulse 0 tables finish := by
  obtain ⟨tables, finish, hlength, htables⟩ :=
    Chained.exists_of_length (P := fun taken => taken % 3 = 0)
      (fun taken h => ⟨_, _, timetable_pulse h, (Nat.add_mod_right taken 3).trans h⟩)
      w.measurable.length (Nat.zero_mod 3)
  exact ⟨tables, finish, hlength, htables⟩

end Runner

namespace Config

/-- A configuration that names one divisor type, one operand pair and one operation again and
again. -/
def repeating (kinds sizes operations : Nat) : Config where
  workload := ⟨.replicate kinds .mixed, .replicate sizes 1, .replicate operations .divideUnsigned⟩
  runner := ⟨0, 1, 1, 1, none⟩

section repeating

variable {kinds sizes operations : Nat}

/-- However often they are named, they are valid. -/
theorem validate_repeating (hkinds : kinds ≠ 0) (hsizes : sizes ≠ 0) (hoperations : operations ≠ 0)
    (host : Host) : (repeating kinds sizes operations).validate host = .ok () := by
  have hpositive : (0 : UInt64) ∉ List.replicate sizes (1 : UInt64) := by
    intro hzero
    cases List.eq_of_mem_replicate hzero
  have hworkload : (repeating kinds sizes operations).workload.validate = .ok () :=
    Workload.validate_eq_ok_iff.mpr ⟨mt (List.replicate_eq_nil_iff _).mp hkinds,
      mt (List.replicate_eq_nil_iff _).mp hsizes, hpositive,
      mt (List.replicate_eq_nil_iff _).mp hoperations⟩
  exact Config.validate_eq_ok_iff.mpr ⟨hworkload, rfl, rfl⟩

theorem toNat_lt_of_mem_repeating {size : UInt64}
    (h : size ∈ (repeating kinds sizes operations).workload.bufferSizes) :
    size.toNat < Count.capacity := by
  obtain rfl : size = 1 := List.eq_of_mem_replicate h
  decide

/-- Each of the three lists adds to the results, and they need not find room. -/
theorem reserve_repeating {resultSize : Nat} (hcount : kinds * sizes * operations < Count.bound)
    (hmuch : Count.addressable < kinds * sizes * operations * resultSize) :
    (repeating kinds sizes operations).workload.reserve resultSize = .error .capacityOverflow := by
  have hbenchmarks : (repeating kinds sizes operations).workload.benchmarks =
      kinds * sizes * operations := by
    rw [Workload.benchmarks, Workload.length_trials]
    simp only [repeating, List.length_replicate]
  rw [← hbenchmarks] at hcount hmuch
  exact Workload.reserve_of_unaddressable hcount hmuch

end repeating

/-- **Validity does not look at the room for results.** A configuration that names a divisor type
and a buffer size 2 to the 14 times each, and an operation 2 to the 29 times, is valid; its buffers
are short, and every one of its iterations would end. But its 2 to the 57 results of 160 bytes each
cannot be addressed, and its sweep measures nothing. -/
theorem not_sweep_of_validate :
    ¬ ∀ (config : Config) (host : Host), config.validate host = .ok () →
      (∀ size ∈ config.workload.bufferSizes, size.toNat < Count.capacity) →
      ∀ runner, Runner.ofSettings config.runner = .ok runner →
      ∀ clock taken tables finish,
        runner.SweepTimetable config.workload clock taken tables finish →
        ∃ results, (runner.runSweep config.workload 160).under clock taken =
          (.ok results, finish) := by
  intro hclaim
  have hvalid := validate_repeating (by decide : 16384 ≠ 0) (by decide : 16384 ≠ 0)
    (by decide : 536870912 ≠ 0) ⟨1, ⟨fun _ => .error .notFound, fun _ => false, fun _ => .ok ()⟩⟩
  have hroom := reserve_repeating (by decide : 16384 * 16384 * 536870912 < Count.bound)
    (by decide : Count.addressable < 16384 * 16384 * 536870912 * 160)
  obtain ⟨tables, finish, htable⟩ :=
    Runner.exists_sweepTimetable_pulse (repeating 16384 16384 536870912).workload
  obtain ⟨results, hresults⟩ := hclaim _ _ hvalid (fun _ => toNat_lt_of_mem_repeating) _ rfl _ _ _ _
    htable
  rw [Runner.under_runSweep_of_fault hroom] at hresults
  cases congrArg Prod.fst hresults

end Config

end DivisionBenchmark

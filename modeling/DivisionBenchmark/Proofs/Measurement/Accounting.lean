import DivisionBenchmark.Proofs.Kernel.History
import DivisionBenchmark.Proofs.Latency.Size
import DivisionBenchmark.Proofs.Measurement.Timetable

/-!
# What a measurement counts

The trials of an operation leave one set of statistics: a list of scores, a number of invocations, a
time and the latencies. They are counted in different places – the scores, the invocations and the
time once for each measured iteration, the latencies once for each invocation – and yet they agree:
all of them are read off the measured laps (`DivisionBenchmark.Statistics.Accounts`), and the laps
of the warm-up are in none of them.

Nothing is assumed of the clock but that the runner has a timetable under it, that is, that every
iteration comes to its end before a count or a time is too great to be kept.

Main statement: `DivisionBenchmark.Runner.measure_accounts`.
-/

namespace DivisionBenchmark

/-! ### Statistics that account for laps -/

namespace Statistics

/-- **The statistics account for laps**: there is a score for each in their order, and whatever is
counted is what the laps come to. -/
structure Accounts (clock : Nat → UInt64) (laps : List Lap) (s : Statistics) : Prop where
  /-- Every lap has its score. -/
  scores : s.scores.toList = laps.map (Lap.score clock)
  /-- The invocations are those of the laps. -/
  invocations : s.invocations.toNat = Lap.invocations laps
  /-- The time is that of the laps. -/
  measuredTime : s.measuredTime.nanos = Lap.time clock laps
  /-- There is a latency for each invocation. -/
  latencies : s.latency.buckets.sum = Lap.invocations laps

variable {clock : Nat → UInt64} {laps laps' : List Lap} {s other : Statistics}

theorem accounts_empty : empty.Accounts clock [] := ⟨rfl, rfl, rfl, rfl⟩

/-- However many invocations are recorded, only latencies are. -/
theorem recordInvocations_eq (s : Statistics) (latencies : List UInt64) :
    s.recordInvocations latencies =
      { s with latency := (s.recordInvocations latencies).latency } := by
  induction latencies generalizing s with
  | nil => rfl
  | cons nanos latencies ih => exact ih (s.recordInvocation nanos)

@[simp] theorem scores_recordInvocations (s : Statistics) (latencies : List UInt64) :
    (s.recordInvocations latencies).scores = s.scores := by
  rw [recordInvocations_eq]

@[simp] theorem invocations_recordInvocations (s : Statistics) (latencies : List UInt64) :
    (s.recordInvocations latencies).invocations = s.invocations := by
  rw [recordInvocations_eq]

@[simp] theorem measuredTime_recordInvocations (s : Statistics) (latencies : List UInt64) :
    (s.recordInvocations latencies).measuredTime = s.measuredTime := by
  rw [recordInvocations_eq]

/-- Each invocation leaves one latency. -/
theorem sum_recordInvocations {latencies : List UInt64}
    (h : s.latency.buckets.sum + latencies.length < Count.bound) :
    (s.recordInvocations latencies).latency.buckets.sum =
      s.latency.buckets.sum + latencies.length := by
  induction latencies generalizing s with
  | nil => rfl
  | cons nanos latencies ih =>
    rw [List.length_cons] at h ⊢
    have hone : (s.recordInvocation nanos).latency.buckets.sum = s.latency.buckets.sum + 1 :=
      Histogram.sum_recordNanos (by omega)
    rw [recordInvocations, List.foldl_cons]
    exact (ih (s := s.recordInvocation nanos) (by omega)).trans (by omega)

/-- **A lap more is accounted for** once its iteration is recorded. -/
theorem Accounts.recordIteration (h : s.Accounts clock laps) {lap : Lap}
    (hfit : Lap.Fit clock (laps ++ [lap])) :
    ∃ t, (s.recordInvocations (lap.latencies clock)).recordIteration
        (.ofNanos (lap.elapsed clock)) (.ofNat lap.count) = .ok t ∧
      t.Accounts clock (laps ++ [lap]) := by
  have hcount := hfit.invocations
  obtain ⟨invocations, measuredTime, hinvocations, hmeasured⟩ := hfit.exists_words
  have hlap : Lap.invocations [lap] = lap.count := Nat.add_zero _
  rw [Lap.invocations_append, hlap] at hcount hinvocations
  rw [Lap.time_append, Lap.time_singleton] at hmeasured
  have hcounted : (UInt64.ofNat lap.count).toNat = lap.count :=
    UInt64.toNat_ofNat_of_lt (Nat.lt_of_le_of_lt (Nat.le_add_left _ _) hcount)
  have hlatencies : (s.recordInvocations (lap.latencies clock)).latency.buckets.sum =
      Lap.invocations laps + lap.count := by
    have hlength : (lap.latencies clock).length = lap.count := Lap.length_latencies lap
    rw [← h.latencies, ← hlength] at hcount ⊢
    exact sum_recordInvocations hcount
  refine ⟨⟨s.scores.push (lap.score clock), invocations, measuredTime, _⟩,
    recordIteration_eq_ok_iff.mpr ⟨?_, ?_, ?_, rfl⟩, ?_, ?_, ?_, ?_⟩
  · rw [scores_recordInvocations]
    rfl
  · rw [invocations_recordInvocations, h.invocations, hcounted, hinvocations]
  · rw [measuredTime_recordInvocations, h.measuredTime, hmeasured, Duration.nanos_ofNanos]
  · rw [Array.toList_push, h.scores, List.map_append]
    rfl
  · rw [hinvocations, Lap.invocations_append, hlap]
  · rw [hmeasured, Lap.time_append, Lap.time_singleton]
  · rw [hlatencies, Lap.invocations_append, hlap]

/-- **Statistics put together account for the laps of both.** -/
theorem Accounts.merge (h : s.Accounts clock laps) (hother : other.Accounts clock laps')
    (hfit : Lap.Fit clock (laps ++ laps')) :
    ∃ t, s.merge other = .ok t ∧ t.Accounts clock (laps ++ laps') := by
  have hcount := hfit.invocations
  obtain ⟨invocations, measuredTime, hinvocations, hmeasured⟩ := hfit.exists_words
  refine ⟨⟨s.scores ++ other.scores, invocations, measuredTime, s.latency.merge other.latency⟩,
    merge_eq_ok_iff.mpr ⟨rfl, ?_, ?_, rfl⟩, ?_, hinvocations, hmeasured, ?_⟩
  · rw [h.invocations, hother.invocations, hinvocations, Lap.invocations_append]
  · rw [h.measuredTime, hother.measuredTime, hmeasured, Lap.time_append]
  · rw [Array.toList_append, h.scores, hother.scores, List.map_append]
  · rw [Lap.invocations_append, ← h.latencies, ← hother.latencies] at hcount ⊢
    exact Histogram.sum_merge hcount

end Statistics

/-! ### Runs -/

namespace Runner

variable {runner : Runner} {trial : Trial} {clock : Nat → UInt64} {b : Buffers}
  {taken finish : Nat} (operation : Operation)

/-- An iteration leaves what its lap leaves. -/
theorem under_iterate {time : Duration} {statistics : Option Statistics} {lap : Lap}
    (h : 0 ∉ b.divisors) (hlap : lap.Runs clock time.toNanos taken finish) :
    (iterate operation b time statistics).under clock taken =
      (.ok (lap.iteration clock operation b statistics), finish) :=
  iterate_eq_ok_iff.mpr ⟨operation.not_meetsZero h, lap, hlap.start, hlap.ends, hlap.counted,
    hlap.finish, rfl⟩

/-- The warm-up leaves buffers the trial can go on with, and nothing else. -/
theorem under_warmUp {laps : List Lap} (h : 0 ∉ b.divisors)
    (hlaps : Chained (Lap.Runs clock runner.iterationTime.toNanos) taken laps finish) :
    ∃ b', (runner.warmUp operation laps.length b).under clock taken = (.ok b', finish) ∧
      0 ∉ b'.divisors := by
  induction hlaps generalizing b with
  | nil => exact ⟨b, rfl, h⟩
  | @cons _ _ _ lap laps head tail ih =>
    -- a sweep leaves the divisors as they are
    obtain ⟨b', hb', hdivisors⟩ := ih (b := operation.swept b) h
    refine ⟨b', ?_, hdivisors⟩
    rw [List.length_cons, warmUp, Measuring.under_bind (under_iterate operation h head)]
    exact hb'

/-- **The measured iterations are accounted for**, on top of what was. -/
theorem under_measureIterations {laps done : List Lap} {s : Statistics} (h : 0 ∉ b.divisors)
    (hlaps : Chained (Lap.Runs clock runner.iterationTime.toNanos) taken laps finish)
    (hs : s.Accounts clock done) (hfit : Lap.Fit clock (done ++ laps)) :
    ∃ t, (runner.measureIterations operation laps.length b s).under clock taken =
        (.ok t, finish) ∧ t.Accounts clock (done ++ laps) := by
  induction hlaps generalizing b s done with
  | nil => exact ⟨s, rfl, (List.append_nil done).symm ▸ hs⟩
  | @cons _ _ _ lap laps head tail ih =>
    rw [List.append_cons] at hfit ⊢
    obtain ⟨s', hs', haccounts⟩ := hs.recordIteration hfit.left
    obtain ⟨t, ht, htaccounts⟩ := ih (b := operation.swept b) h haccounts hfit
    refine ⟨t, ?_, htaccounts⟩
    rw [List.length_cons, measureIterations, Measuring.under_bind (under_iterate operation h head)]
    exact (Measuring.under_bind (Measuring.under_ofFault_ok hs')).trans ht

/-- **A trial accounts for its measured laps**, and for no lap of the warm-up. -/
theorem under_runTrial {laps : TrialLaps} (hpos : trial.bufferSize ≠ 0)
    (hcap : trial.bufferSize.toNat < Count.capacity)
    (hlaps : laps.Runs runner clock taken finish) (hfit : Lap.Fit clock laps.measured) :
    ∃ t, (runner.runTrial trial operation).under clock taken = (.ok t, finish) ∧
      t.Accounts clock laps.measured := by
  obtain ⟨b, hb, hfresh⟩ := Buffers.setup_eq_ok hpos hcap
  obtain ⟨reached, hwarmup, hmeasured⟩ := hlaps.laps.exists_of_append
  obtain ⟨b', hb', hdivisors⟩ := under_warmUp operation hfresh.divisors hwarmup
  obtain ⟨t, ht, haccounts⟩ := under_measureIterations operation hdivisors hmeasured
    Statistics.accounts_empty hfit
  refine ⟨t, ?_, haccounts⟩
  rw [runTrial, ← hlaps.warmup, ← hlaps.measured,
    Measuring.under_bind (Measuring.under_ofExcept_eq hb), Measuring.under_bind hb']
  exact ht

/-- **The trials are accounted for**, on top of what was. -/
theorem under_measureTrials {trials : List TrialLaps} {done : List Lap} {s : Statistics}
    (index : Nat) (hpos : trial.bufferSize ≠ 0) (hcap : trial.bufferSize.toNat < Count.capacity)
    (htrials : Chained (TrialLaps.Runs runner clock) taken trials finish)
    (hs : s.Accounts clock done)
    (hfit : Lap.Fit clock (done ++ TrialLaps.measuredOf trials)) :
    ∃ t, (runner.measureTrials trial operation trials.length index s).under clock taken =
        (.ok t, finish) ∧ t.Accounts clock (done ++ TrialLaps.measuredOf trials) := by
  induction htrials generalizing s done index with
  | nil => exact ⟨s, rfl, (List.append_nil done).symm ▸ hs⟩
  | @cons _ reached _ laps trials head tail ih =>
    have hsplit : done ++ TrialLaps.measuredOf (laps :: trials) =
        done ++ laps.measured ++ TrialLaps.measuredOf trials := by
      rw [TrialLaps.measuredOf, List.flatMap_cons, List.append_assoc]
      rfl
    rw [hsplit] at hfit ⊢
    obtain ⟨measured, hrun, hmeasured⟩ := under_runTrial operation hpos hcap head
      hfit.left.right
    obtain ⟨s', hs', haccounts⟩ := hs.merge hmeasured hfit.left
    obtain ⟨t, ht, htaccounts⟩ := ih (index + 1) haccounts hfit
    refine ⟨t, ?_, htaccounts⟩
    -- a trial that gives its statistics needs no isolation
    have hisolated : (runner.runIsolated trial operation index).under clock _ =
        (.ok measured, reached) := Measuring.under_tryCatch hrun
    rw [List.length_cons, measureTrials, Measuring.under_bind hisolated,
      Measuring.under_bind (Measuring.under_ofFault_ok hs')]
    exact ht

/-- **A measurement that has a timetable gives its statistics**, and they account for the measured
laps. -/
theorem under_measure {trials : List TrialLaps} (hpos : trial.bufferSize ≠ 0)
    (hcap : trial.bufferSize.toNat < Count.capacity)
    (htable : runner.Timetable clock taken trials finish) :
    ∃ t, (runner.measure trial operation).under clock taken =
        (.ok ⟨operation, trial, t⟩, finish) ∧
      t.Accounts clock (TrialLaps.measuredOf trials) := by
  obtain ⟨t, ht, haccounts⟩ := under_measureTrials operation 0 hpos hcap
    htable.consecutive Statistics.accounts_empty htable.fit
  refine ⟨t, ?_, haccounts⟩
  rw [measure, ← htable.length, Measuring.under_bind ht]
  rfl

end Runner

/-! ### What is counted -/

/-- The statistics have so many latencies more, and nothing else of them is changed. -/
structure Statistics.Gains (n : Nat) (s t : Statistics) : Prop where
  /-- The scores are the same. -/
  scores : t.scores = s.scores
  /-- The invocations are the same. -/
  invocations : t.invocations = s.invocations
  /-- The time is the same. -/
  measuredTime : t.measuredTime = s.measuredTime
  /-- There are so many latencies more, as long as they can be counted. -/
  latencies : s.latency.size + n < Count.bound → t.latency.size = s.latency.size + n

theorem Statistics.gains_recordInvocations (s : Statistics) (latencies : List UInt64) :
    s.Gains latencies.length (s.recordInvocations latencies) where
  scores := scores_recordInvocations s latencies
  invocations := invocations_recordInvocations s latencies
  measuredTime := measuredTime_recordInvocations s latencies
  latencies := by
    intro hlt
    cases latencies with
    | nil => rfl
    | cons nanos rest =>
      rw [List.length_cons] at hlt ⊢
      -- a size that can still grow has not been cut off, and neither will it be
      have hsize : s.latency.size = s.latency.buckets.sum := Histogram.size_eq_sum (by omega)
      rw [hsize] at hlt ⊢
      have hsum : (s.recordInvocations (nanos :: rest)).latency.buckets.sum =
          s.latency.buckets.sum + (rest.length + 1) := sum_recordInvocations hlt
      rw [← hsum] at hlt ⊢
      exact Tally.total_eq_sum hlt

/-- However often an operation is run, it leaves what it has left the first time. -/
theorem play_replicate {operation : Operation} {b : Buffers} (h : ¬operation.MeetsZero b)
    (n : Nat) :
    play (List.replicate (n + 1) (.asked operation)) b = .ok (operation.swept b) := by
  induction n generalizing b with
  | zero =>
    rw [List.replicate_one, play, Step.run, Operation.run_eq_ok h]
    rfl
  | succ n ih =>
    have hmeets : ¬operation.MeetsZero (operation.swept b) := mt Operation.meetsZero_swept.mp h
    have hagain := ih hmeets
    rw [Operation.swept_again] at hagain
    rw [List.replicate_succ, play, Step.run, Operation.run_eq_ok h]
    exact hagain

/-- **What an iteration does**: its buffers are those of so many runs of the operation as it has
invocations, and the statistics it is given, if they are there, have a latency more for each. -/
theorem iterate_gains {operation : Operation} {clock : Nat → UInt64} {b : Buffers}
    {time : Duration} {statistics : Option Statistics} {taken reached : Nat}
    {iteration : Iteration}
    (h : (iterate operation b time statistics).under clock taken = (.ok iteration, reached)) :
    0 < iteration.invocations.toNat ∧ reached = taken + 1 + 2 * iteration.invocations.toNat ∧
      play (List.replicate iteration.invocations.toNat (.asked operation)) b =
        .ok iteration.buffers ∧
      Option.Rel (Statistics.Gains iteration.invocations.toNat) statistics
        iteration.statistics := by
  obtain ⟨hmeets, lap, rfl, hends, hcounted, rfl, rfl⟩ := iterate_eq_ok_iff.mp h
  have hcount : (lap.iteration clock operation b statistics).invocations.toNat = lap.count :=
    UInt64.toNat_ofNat_of_lt hcounted
  rw [hcount]
  refine ⟨hends.more, rfl, ?_, ?_⟩
  · obtain ⟨n, hn⟩ := Nat.exists_eq_succ_of_ne_zero (Nat.ne_of_gt hends.more)
    rw [hn]
    exact play_replicate hmeets n
  cases statistics with
  | none => exact .none
  | some s =>
    have hgains := s.gains_recordInvocations (lap.latencies clock)
    rw [Lap.length_latencies] at hgains
    exact .some hgains

section counting

variable {runner : Runner} {clock : Nat → UInt64} {taken finish : Nat} {trials : List TrialLaps}

/-- The runner says how many laps are measured. -/
theorem TrialLaps.length_measuredOf
    (h : Chained (TrialLaps.Runs runner clock) taken trials finish) :
    (TrialLaps.measuredOf trials).length =
      trials.length * runner.measurementIterations.toNat := by
  induction h with
  | nil => exact (Nat.zero_mul _).symm
  | @cons _ _ _ laps trials head tail ih =>
    rw [TrialLaps.measuredOf, List.flatMap_cons, List.length_append, head.measured,
      List.length_cons, Nat.succ_mul, Nat.add_comm, ← ih]
    rfl

/-- The measured laps have an invocation each. -/
theorem TrialLaps.length_measuredOf_le
    (h : Chained (TrialLaps.Runs runner clock) taken trials finish) :
    (TrialLaps.measuredOf trials).length ≤ Lap.invocations (TrialLaps.measuredOf trials) := by
  induction h with
  | nil => exact Nat.le_refl 0
  | @cons _ _ _ laps trials head tail ih =>
    obtain ⟨_, -, hmeasured⟩ := head.laps.exists_of_append
    have hlaps := Lap.length_le_invocations hmeasured
    rw [TrialLaps.measuredOf, List.flatMap_cons, List.length_append, Lap.invocations_append]
    exact Nat.add_le_add hlaps ih

end counting

/-- **What a measurement counts.** Under a timetable it gives statistics with a score for each
measured lap, trial by trial and lap by lap; their invocations and their time are those of the
measured laps, and there are as many latencies as invocations and no fewer invocations than scores.
An iteration alone runs the operation once for each of its invocations, each run on what the one
before has left, and changes nothing of the statistics but the latencies, of which there is one more
for each invocation. -/
theorem Runner.measure_accounts (runner : Runner) (trial : Trial) (operation : Operation)
    (clock : Nat → UInt64) {taken finish : Nat} {trials : List TrialLaps}
    (hpos : trial.bufferSize ≠ 0) (hcap : trial.bufferSize.toNat < Count.capacity)
    (htable : runner.Timetable clock taken trials finish) :
    (∃ t : Statistics,
      (runner.measure trial operation).under clock taken =
          (.ok ⟨operation, trial, t⟩, finish) ∧
        t.scores.size = runner.trials.toNat * runner.measurementIterations.toNat ∧
        t.scores.toList = trials.flatMap (fun laps => laps.measured.map (Lap.score clock)) ∧
        t.invocations.toNat = Lap.invocations (TrialLaps.measuredOf trials) ∧
        t.latency.size = t.invocations.toNat ∧
        t.scores.size ≤ t.invocations.toNat ∧
        t.measuredTime.nanos = Lap.time clock (TrialLaps.measuredOf trials)) ∧
      ∀ (clock : Nat → UInt64) (b : Buffers) (time : Duration) (statistics : Option Statistics)
        (taken reached : Nat) (iteration : Iteration),
        (iterate operation b time statistics).under clock taken = (.ok iteration, reached) →
          0 < iteration.invocations.toNat ∧
            reached = taken + 1 + 2 * iteration.invocations.toNat ∧
            play (List.replicate iteration.invocations.toNat (.asked operation)) b =
              .ok iteration.buffers ∧
            Option.Rel (Statistics.Gains iteration.invocations.toNat) statistics
              iteration.statistics := by
  refine ⟨?_, fun _ _ _ _ _ _ _ hiteration => iterate_gains hiteration⟩
  obtain ⟨t, ht, haccounts⟩ := under_measure operation hpos hcap htable
  have hscores : t.scores.size = (TrialLaps.measuredOf trials).length := by
    rw [← Array.length_toList, haccounts.scores, List.length_map]
  refine ⟨t, ht, ?_, ?_, haccounts.invocations, ?_, ?_, haccounts.measuredTime⟩
  · rw [hscores, TrialLaps.length_measuredOf htable.consecutive, htable.length]
  · rw [haccounts.scores, TrialLaps.measuredOf, List.map_flatMap]
  · have hsum := haccounts.latencies
    rw [haccounts.invocations, ← hsum]
    exact Tally.total_eq_sum (hsum ▸ htable.fit.invocations)
  · rw [hscores, haccounts.invocations]
    exact TrialLaps.length_measuredOf_le htable.consecutive

/-- Two trials of three iterations each, the first of them for nothing, under a clock that goes
faster and faster: the iterations get shorter, down to a single invocation. -/
theorem Runner.measure_accounts_of_squares :
    ∃ t : Statistics,
      (Runner.measure ⟨1, 2, .ofNanos 50, 2, none⟩ ⟨.negative, 3⟩ .divideRemainderUnsigned).under
          (fun n => .ofNat (n * n)) 0 = (.ok ⟨.divideRemainderUnsigned, ⟨.negative, 3⟩, t⟩, 26) ∧
        t.scores.size = 4 ∧ t.invocations.toNat = 5 ∧ t.latency.size = 5 ∧
        t.measuredTime.nanos = 328 := by
  have htable : Runner.Timetable ⟨1, 2, .ofNanos 50, 2, none⟩ (fun n => .ofNat (n * n)) 0
      [⟨[⟨0, 4⟩], [⟨9, 2⟩, ⟨14, 1⟩]⟩, ⟨[⟨17, 1⟩], [⟨20, 1⟩, ⟨23, 1⟩]⟩] 26 := by
    have hlap (start count : Nat) (hends : Lap.Ends (fun n => .ofNat (n * n)) 50 ⟨start, count⟩)
        (hcounted : count < Count.bound) :
        Lap.Runs (fun n => .ofNat (n * n)) 50 start ⟨start, count⟩ (start + 1 + 2 * count) :=
      ⟨rfl, hends, hcounted, rfl⟩
    have hfirst := Chained.cons (hlap 0 4 (by decide) (by decide)) <|
      .cons (hlap 9 2 (by decide) (by decide)) <| .cons (hlap 14 1 (by decide) (by decide)) .nil
    have hsecond := Chained.cons (hlap 17 1 (by decide) (by decide)) <|
      .cons (hlap 20 1 (by decide) (by decide)) <| .cons (hlap 23 1 (by decide) (by decide)) .nil
    exact ⟨rfl, .cons ⟨rfl, rfl, hfirst⟩ (.cons ⟨rfl, rfl, hsecond⟩ .nil), by decide, by decide⟩
  obtain ⟨⟨t, ht, hscores, -, hinvocations, hlatencies, -, htime⟩, -⟩ :=
    Runner.measure_accounts _ ⟨.negative, 3⟩ .divideRemainderUnsigned _ (by decide) (by decide)
      htable
  exact ⟨t, ht, hscores, hinvocations, hlatencies.trans hinvocations, htime⟩

end DivisionBenchmark

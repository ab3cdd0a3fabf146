import DivisionBenchmark.Proofs.Latency.Extremes
import DivisionBenchmark.Proofs.Measurement.Events
import DivisionBenchmark.Proofs.Measurement.Timetable

/-!
# The trials of an operation, put together

A trial records the events of its measured laps, and the trials of an operation are merged one after
the other. So a measurement has the statistics of all events of its trials
(`DivisionBenchmark.Runner.under_measure_eq_ok_iff`), and would have the same had they been recorded
in other groups, or in one place.

Main statement: `DivisionBenchmark.Statistics.merge_ofEvents`, which says so of any events.
-/

namespace DivisionBenchmark

/-! ### What a trial records -/

/-- What is recorded of a lap: its latencies, and then its iteration. -/
def Lap.events (clock : Nat → UInt64) (lap : Lap) : List Event :=
  (lap.latencies clock).map .invocation ++
    [.iteration (.ofNanos (lap.elapsed clock)) (.ofNat lap.count)]

namespace Statistics

theorem noteAll_append (s : Statistics) (xs ys : List Event) :
    s.noteAll (xs ++ ys) = s.noteAll xs >>= fun t => t.noteAll ys :=
  List.foldlM_append

theorem noteAll_invocations (s : Statistics) (latencies : List UInt64) :
    s.noteAll (latencies.map .invocation) = .ok (s.recordInvocations latencies) := by
  induction latencies generalizing s with
  | nil => rfl
  | cons nanos latencies ih => exact ih (s.recordInvocation nanos)

/-- A lap is recorded by its latencies and its iteration. -/
theorem noteAll_events (s : Statistics) (clock : Nat → UInt64) (lap : Lap) :
    s.noteAll (lap.events clock) = (s.recordInvocations (lap.latencies clock)).recordIteration
      (.ofNanos (lap.elapsed clock)) (.ofNat lap.count) := by
  rw [Lap.events, noteAll_append, noteAll_invocations]
  exact bind_pure (recordIteration _ _ _)

end Statistics

namespace Runner

variable {runner : Runner} {trial : Trial} {operation : Operation} {clock : Nat → UInt64}
  {taken finish : Nat} {s t : Statistics}

/-- **The measured iterations record the events of their laps.** -/
theorem exists_laps_of_measureIterations {n : Nat} {b : Buffers}
    (h : (runner.measureIterations operation n b s).under clock taken = (.ok t, finish)) :
    ∃ laps : List Lap, laps.length = n ∧
      s.noteAll (laps.flatMap (Lap.events clock)) = .ok t := by
  induction n generalizing b s taken with
  | zero =>
    obtain ⟨hvalue, -⟩ := Prod.mk.inj h
    exact ⟨[], rfl, congrArg Except.ok (Except.ok.inj hvalue)⟩
  | succ n ih =>
    obtain ⟨iteration, reached, hiteration, h⟩ := Measuring.under_bind_eq_ok_iff.mp h
    obtain ⟨s', _, hrecorded, h⟩ := Measuring.under_bind_eq_ok_iff.mp h
    obtain ⟨-, lap, -, -, -, -, rfl⟩ := iterate_eq_ok_iff.mp hiteration
    obtain ⟨hrecorded, -⟩ := Measuring.under_ofFault_eq_ok_iff.mp hrecorded
    obtain ⟨laps, hlength, hlaps⟩ := ih h
    refine ⟨lap :: laps, congrArg (· + 1) hlength, ?_⟩
    rw [List.flatMap_cons, Statistics.noteAll_append, Statistics.noteAll_events]
    exact bind_eq_ok_iff.mpr ⟨s', hrecorded, hlaps⟩

/-- **A trial records events.** -/
theorem exists_events_of_runTrial
    (h : (runner.runTrial trial operation).under clock taken = (.ok t, finish)) :
    ∃ events, Statistics.ofEvents events = .ok t := by
  obtain ⟨b, _, -, h⟩ := Measuring.under_bind_eq_ok_iff.mp h
  obtain ⟨b', _, -, h⟩ := Measuring.under_bind_eq_ok_iff.mp h
  obtain ⟨laps, -, hlaps⟩ := exists_laps_of_measureIterations h
  exact ⟨laps.flatMap (Lap.events clock), hlaps⟩

/-- A trial whose faults are caught has its value where the trial has. -/
theorem under_runIsolated_eq_ok_iff {index : Nat} :
    (runner.runIsolated trial operation index).under clock taken = (.ok t, finish) ↔
      (runner.runTrial trial operation).under clock taken = (.ok t, finish) := by
  constructor
  · intro h
    rcases hrun : (runner.runTrial trial operation).under clock taken with ⟨failure | s, reached⟩
    · -- whatever is caught is thrown again
      rw [runIsolated, Measuring.under_tryCatch_error hrun] at h
      cases failure <;> cases congrArg Prod.fst h
    · rw [runIsolated, Measuring.under_tryCatch hrun] at h
      exact h
  · exact Measuring.under_tryCatch

/-- **The trial records these events** under the clock, from one number of readings to another: it
leaves the statistics of them. -/
def Records (runner : Runner) (trial : Trial) (operation : Operation) (clock : Nat → UInt64)
    (taken : Nat) (events : List Event) (reached : Nat) : Prop :=
  ∃ s, (runner.runTrial trial operation).under clock taken = (.ok s, reached) ∧
    Statistics.ofEvents events = .ok s

/-- Trials give what the events they record give when they are put together. -/
theorem under_measureTrials_eq_ok_iff {n index : Nat} :
    (runner.measureTrials trial operation n index s).under clock taken = (.ok t, finish) ↔
      ∃ groups, groups.length = n ∧
        Chained (runner.Records trial operation clock) taken groups finish ∧
        s.mergeAll groups = .ok t := by
  induction n generalizing index s taken with
  | zero =>
    constructor
    · intro h
      obtain ⟨hvalue, rfl⟩ := Prod.mk.inj h
      exact ⟨[], rfl, .nil, congrArg Except.ok (Except.ok.inj hvalue)⟩
    · rintro ⟨groups, hlength, hgroups, hvalue⟩
      obtain rfl := List.length_eq_zero_iff.mp hlength
      cases hgroups
      obtain rfl := Except.ok.inj hvalue
      rfl
  | succ n ih =>
    rw [measureTrials, Measuring.under_bind_eq_ok_iff]
    constructor
    · rintro ⟨measured, reached, hmeasured, htail⟩
      obtain ⟨s', _, hrun, hrest⟩ := Measuring.under_bind_eq_ok_iff.mp htail
      obtain ⟨hmerge, rfl⟩ := Measuring.under_ofFault_eq_ok_iff.mp hrun
      obtain ⟨groups, hlength, hgroups, hvalue⟩ := ih.mp hrest
      have htrial := under_runIsolated_eq_ok_iff.mp hmeasured
      obtain ⟨events, hevents⟩ := exists_events_of_runTrial htrial
      exact ⟨events :: groups, congrArg (· + 1) hlength, .cons ⟨measured, htrial, hevents⟩ hgroups,
        Statistics.mergeAll_cons_eq_ok_iff.mpr ⟨measured, s', hevents, hmerge, hvalue⟩⟩
    · rintro ⟨groups, hlength, hgroups, hvalue⟩
      cases hgroups with
      | nil => cases hlength
      | @cons _ reached _ events groups head tail =>
        obtain ⟨measured, htrial, hevents⟩ := head
        obtain ⟨_, s', hevents', hmerge, hvalue⟩ := Statistics.mergeAll_cons_eq_ok_iff.mp hvalue
        obtain rfl := Except.ok.inj (hevents.symm.trans hevents')
        refine ⟨measured, reached, under_runIsolated_eq_ok_iff.mpr htrial, ?_⟩
        rw [Measuring.under_bind (Measuring.under_ofFault_ok hmerge)]
        exact ih.mpr ⟨groups, Nat.succ.inj hlength, tail, hvalue⟩

/-- **A measurement has the statistics of all events of its trials.** -/
theorem under_measure_eq_ok_iff {m : Measurement} :
    (runner.measure trial operation).under clock taken = (.ok m, finish) ↔
      ∃ groups, groups.length = runner.trials.toNat ∧
        Chained (runner.Records trial operation clock) taken groups finish ∧
        m.operation = operation ∧ m.trial = trial ∧
        Statistics.ofEvents groups.flatten = .ok m.statistics := by
  have hempty : Statistics.ofEvents [] = .ok .empty := rfl
  have hmergeAll {groups : List (List Event)} {t : Statistics} :
      Statistics.empty.mergeAll groups = .ok t ↔ Statistics.ofEvents groups.flatten = .ok t :=
    Statistics.mergeAll_eq_ok_iff hempty
  rw [measure, Measuring.under_bind_eq_ok_iff]
  constructor
  · rintro ⟨t, reached, htrials, hdone⟩
    obtain ⟨hvalue, rfl⟩ := Prod.mk.inj hdone
    obtain rfl := Except.ok.inj hvalue
    obtain ⟨groups, hlength, hgroups, ht⟩ := under_measureTrials_eq_ok_iff.mp htrials
    exact ⟨groups, hlength, hgroups, rfl, rfl, hmergeAll.mp ht⟩
  · rintro ⟨groups, hlength, hgroups, rfl, rfl, ht⟩
    exact ⟨m.statistics, finish,
      under_measureTrials_eq_ok_iff.mpr ⟨groups, hlength, hgroups, hmergeAll.mpr ht⟩, rfl⟩

end Runner

/-! ### Merging -/

/-- **Merging statistics is recording everything in one place.** Let events fit together.

* The statistics of two lists of them are merged without a fault, and the result is the statistics
  of the two lists one behind the other: the very same, so whatever is asked of them. Extremes that
  are kept beside the latencies may differ, as the latencies came by recording or by merging, but
  all of them report the same, and nothing beyond the last bucket.
* It does not matter which of three are merged first, and those of no event change nothing.
* A measurement has the statistics that its trials' events have in any other groups. -/
theorem Statistics.merge_ofEvents :
    (∀ xs ys : List Event, Event.Fit (xs ++ ys) →
      ∃ s t u, ofEvents xs = .ok s ∧ ofEvents ys = .ok t ∧ s.merge t = .ok u ∧
        ofEvents (xs ++ ys) = .ok u ∧
        ∀ origin : Histogram.Origin, origin.samples = Event.latencies (xs ++ ys) →
          Extremes.Reports u.latency origin.extremes ∧
            ∀ e, origin.extremes = some e → e.reported.longest ≤ Bucket.highest Bucket.longest) ∧
    (∀ xs ys zs : List Event, Event.Fit (xs ++ ys ++ zs) →
      ∃ s t u st tu all, ofEvents xs = .ok s ∧ ofEvents ys = .ok t ∧ ofEvents zs = .ok u ∧
        s.merge t = .ok st ∧ t.merge u = .ok tu ∧ st.merge u = .ok all ∧ s.merge tu = .ok all) ∧
    (∀ xs s, ofEvents xs = .ok s → s.merge empty = .ok s ∧ empty.merge s = .ok s) ∧
    ∀ (runner : Runner) (trial : Trial) (operation : Operation) (clock : Nat → UInt64)
      (taken finish : Nat) (m : Measurement),
      (runner.measure trial operation).under clock taken = (.ok m, finish) ↔
        ∃ groups, groups.length = runner.trials.toNat ∧
          Chained (runner.Records trial operation clock) taken groups finish ∧
          m.operation = operation ∧ m.trial = trial ∧
          ∀ groups' : List (List Event), groups'.flatten = groups.flatten →
            empty.mergeAll groups' = .ok m.statistics := by
  have hempty : ofEvents [] = .ok empty := rfl
  refine ⟨fun xs ys hfit => ?_, fun xs ys zs hfit => ?_, fun xs s hs => ?_, ?_⟩
  · obtain ⟨u, hu⟩ := exists_ofEvents_iff.mpr hfit
    obtain ⟨s, t, hs, ht, hmerge⟩ := ofEvents_append_eq_ok_iff.mp hu
    refine ⟨s, t, u, hs, ht, hmerge, hu, fun origin horigin => ?_⟩
    obtain ⟨-, -, -, hlatency⟩ := ofEvents_eq_ok_iff.mp hu
    have hholds : u.latency.Holds origin.samples := by
      rw [hlatency, horigin]
      exact Histogram.holds_ofSamples _
    rw [hholds.unique origin.holds_samples]
    exact ⟨origin.reports_extremes, fun e he => origin.keeps_extremes.longest_reported_le he⟩
  · obtain ⟨all, hall⟩ := exists_ofEvents_iff.mpr hfit
    obtain ⟨st, u, hst, hu, hleft⟩ := ofEvents_append_eq_ok_iff.mp hall
    obtain ⟨s, t, hs, ht, hmerge⟩ := ofEvents_append_eq_ok_iff.mp hst
    rw [List.append_assoc] at hall
    obtain ⟨s', tu, hs', htu, hright⟩ := ofEvents_append_eq_ok_iff.mp hall
    obtain rfl := Except.ok.inj (hs.symm.trans hs')
    exact ⟨s, t, u, st, tu, all, hs, ht, hu, hmerge, (merge_eq_ok_iff_ofEvents ht hu).mpr htu,
      hleft, hright⟩
  · refine ⟨(merge_eq_ok_iff_ofEvents hs hempty).mpr ?_,
      (merge_eq_ok_iff_ofEvents hempty hs).mpr hs⟩
    rw [List.append_nil]
    exact hs
  · intro runner trial operation clock taken finish m
    rw [Runner.under_measure_eq_ok_iff]
    refine exists_congr fun groups => and_congr_right' <| and_congr_right' <|
      and_congr_right' <| and_congr_right' ?_
    constructor
    · intro h groups' hflatten
      rw [mergeAll_eq_ok_iff hempty, List.nil_append, hflatten]
      exact h
    · intro h
      have hgroups := (mergeAll_eq_ok_iff hempty).mp (h groups rfl)
      rwa [List.nil_append] at hgroups

/-- A latency of five microseconds on one side, one of no time and the longest there is on the
other. Extremes that are kept differ by some milliseconds, as the longest latency was recorded in
place or came by merging, but they report the same. -/
theorem Statistics.merge_ofEvents_of_clamped :
    let xs : List Event := [.invocation 5000, .iteration (.ofNanos 5100) 1]
    let ys : List Event :=
      [.invocation 0, .invocation 18446744073709551615, .iteration (.ofMillis 60000) 2]
    let merged := Histogram.Origin.merge (.recordNanos .empty 5000)
      (.recordNanos (.recordNanos .empty 0) 18446744073709551615)
    let together :=
      Histogram.Origin.recordNanos (.recordNanos (.recordNanos .empty 5000) 0) 18446744073709551615
    merged.extremes = some ⟨1, 60028878847⟩ ∧ together.extremes = some ⟨1, 60000000000⟩ ∧
      ∃ s t u, ofEvents xs = .ok s ∧ ofEvents ys = .ok t ∧ s.merge t = .ok u ∧
        ofEvents (xs ++ ys) = .ok u ∧ Extremes.Reports u.latency merged.extremes ∧
        Extremes.Reports u.latency together.extremes := by
  intro xs ys merged together
  obtain ⟨hmerge, -⟩ := Statistics.merge_ofEvents
  obtain ⟨s, t, u, hs, ht, hu, hall, hreports⟩ := hmerge xs ys ⟨by decide, by decide⟩
  exact ⟨by decide, by decide, s, t, u, hs, ht, hu, hall, (hreports merged (by decide)).1,
    (hreports together (by decide)).1⟩

end DivisionBenchmark

import DivisionBenchmark.Measurement.Statistics
import DivisionBenchmark.Proofs.Latency.Samples

/-!
# Statistics of events

Statistics are made by recording invocations and iterations, in any order, and they are put together
by merging. Merging is recording in one place: the statistics of one list of events, merged with
those of another, are the statistics of the two lists one behind the other
(`DivisionBenchmark.Statistics.merge_eq_ok_iff_ofEvents`). So merged statistics depend on the events
alone, and not on the groups in which they were recorded
(`DivisionBenchmark.Statistics.mergeAll_eq_ok_iff`).

Both rest on what a run of recordings leaves, told without the run
(`DivisionBenchmark.Statistics.After`): scores behind scores, sums, and a histogram of the
latencies. The sums are checked, and they are what keeps a run from its end; the latencies never
do.
-/

namespace DivisionBenchmark

/-- **What is recorded in statistics.** -/
inductive Event where
  /-- An invocation of so many nanoseconds. -/
  | invocation (nanos : UInt64)
  /-- An iteration of so many invocations in that time. -/
  | iteration (elapsed : Duration) (invocations : UInt64)

namespace Event

/-- The score that an event leaves. -/
def score? : Event → Option Float
  | invocation _ => none
  | iteration elapsed invocations => some (nanosPerOperation elapsed invocations)

/-- The nanoseconds of the latency that an event leaves. -/
def latency? : Event → Option Nat
  | invocation nanos => some nanos.toNat
  | iteration _ _ => none

/-- The invocations that an event counts: those of an iteration. -/
def count : Event → Nat
  | invocation _ => 0
  | iteration _ invocations => invocations.toNat

/-- The nanoseconds that an event measures: those of an iteration. -/
def nanos : Event → Nat
  | invocation _ => 0
  | iteration elapsed _ => elapsed.nanos

/-- The latencies of events. -/
def latencies (events : List Event) : List Nat := events.filterMap latency?

/-- What events have of something together. -/
def total (f : Event → Nat) (events : List Event) : Nat :=
  events.foldr (fun event sum => f event + sum) 0

/-- The invocations of events. -/
def invocations (events : List Event) : Nat := total count events

/-- The nanoseconds of events. -/
def time (events : List Event) : Nat := total nanos events

/-- The events can be counted together: their invocations have a count, and their time is a
duration. -/
structure Fit (events : List Event) : Prop where
  /-- The invocations are below the limit of a count. -/
  invocations : Event.invocations events < Count.bound
  /-- The nanoseconds are below the limit of a duration. -/
  time : Event.time events < Count.bound * 1000000000

variable {events events' : List Event}

@[simp] theorem latencies_append :
    latencies (events ++ events') = latencies events ++ latencies events' :=
  List.filterMap_append

theorem total_append (f : Event → Nat) :
    total f (events ++ events') = total f events + total f events' := by
  induction events with
  | nil => exact (Nat.zero_add _).symm
  | cons event events ih => exact (congrArg (f event + ·) ih).trans (Nat.add_assoc _ _ _).symm

@[simp] theorem invocations_append :
    invocations (events ++ events') = invocations events + invocations events' :=
  total_append count

@[simp] theorem time_append : time (events ++ events') = time events + time events' :=
  total_append nanos

theorem Fit.left (h : Fit (events ++ events')) : Fit events where
  invocations := Nat.lt_of_le_of_lt (Nat.le_add_right _ _) (invocations_append ▸ h.invocations)
  time := Nat.lt_of_le_of_lt (Nat.le_add_right _ _) (time_append ▸ h.time)

theorem Fit.right (h : Fit (events ++ events')) : Fit events' where
  invocations := Nat.lt_of_le_of_lt (Nat.le_add_left _ _) (invocations_append ▸ h.invocations)
  time := Nat.lt_of_le_of_lt (Nat.le_add_left _ _) (time_append ▸ h.time)

end Event

namespace Statistics

/-! ### Recording events -/

/-- The statistics with an event more. -/
def note (s : Statistics) : Event → Except Fault Statistics
  | .invocation nanos => .ok (s.recordInvocation nanos)
  | .iteration elapsed invocations => s.recordIteration elapsed invocations

/-- The statistics with these events more, one after the other. -/
def noteAll (s : Statistics) (events : List Event) : Except Fault Statistics :=
  events.foldlM note s

/-- **The statistics of events.** -/
def ofEvents (events : List Event) : Except Fault Statistics := noteAll empty events

/-- **What events leave behind** of statistics: the scores and the latencies are put behind those
that were there, the counts and the times are added. -/
structure After (s : Statistics) (events : List Event) (t : Statistics) : Prop where
  /-- There is a score for each iteration. -/
  scores : t.scores.toList = s.scores.toList ++ events.filterMap Event.score?
  /-- The invocations are added up. -/
  invocations : s.invocations.toNat + Event.invocations events = t.invocations.toNat
  /-- The times are added up. -/
  measuredTime : s.measuredTime.nanos + Event.time events = t.measuredTime.nanos
  /-- There is a latency for each invocation. -/
  latency : t.latency = (Event.latencies events).foldl Histogram.recordNanos s.latency

variable {s t u : Statistics} {event : Event} {events xs ys : List Event}

theorem After.unique (ht : s.After events t) (hu : s.After events u) : t = u := by
  refine Statistics.ext ?_ ?_ ?_ ?_
  · exact Array.toList_inj.mp (ht.scores.trans hu.scores.symm)
  · exact UInt64.toNat_inj.mp (ht.invocations.symm.trans hu.invocations)
  · exact Duration.ext (ht.measuredTime.symm.trans hu.measuredTime)
  · exact ht.latency.trans hu.latency.symm

theorem after_nil (s : Statistics) : s.After [] s :=
  ⟨(List.append_nil _).symm, rfl, rfl, rfl⟩

/-- What events leave in two parts, they leave together. -/
theorem After.append (ht : s.After xs t) (hu : t.After ys u) : s.After (xs ++ ys) u where
  scores := by rw [hu.scores, ht.scores, List.filterMap_append, List.append_assoc]
  invocations := by
    rw [Event.invocations_append, ← Nat.add_assoc, ht.invocations, hu.invocations]
  measuredTime := by rw [Event.time_append, ← Nat.add_assoc, ht.measuredTime, hu.measuredTime]
  latency := by rw [hu.latency, ht.latency, Event.latencies_append, List.foldl_append]

/-- Events that are not too many leave statistics. -/
theorem exists_after (hinvocations : s.invocations.toNat + Event.invocations events < Count.bound)
    (htime : s.measuredTime.nanos + Event.time events < Count.bound * 1000000000) :
    ∃ t, s.After events t :=
  ⟨⟨(s.scores.toList ++ events.filterMap Event.score?).toArray, .ofNat _, ⟨_, htime⟩, _⟩,
    rfl, (UInt64.toNat_ofNat_of_lt hinvocations).symm, rfl, rfl⟩

/-- Recording an event leaves what the event leaves. -/
theorem note_eq_ok_iff : s.note event = .ok t ↔ s.After [event] t := by
  cases event with
  | invocation nanos =>
    constructor
    · intro h
      obtain rfl := Except.ok.inj h
      exact ⟨(List.append_nil _).symm, rfl, rfl, rfl⟩
    · intro h
      have hrecorded : s.After [.invocation nanos] (s.recordInvocation nanos) :=
        ⟨(List.append_nil _).symm, rfl, rfl, rfl⟩
      exact congrArg Except.ok (hrecorded.unique h)
  | iteration elapsed invocations =>
    rw [note, recordIteration_eq_ok_iff]
    constructor
    · rintro ⟨hscores, hinvocations, htime, hlatency⟩
      refine ⟨?_, hinvocations, htime, hlatency⟩
      rw [hscores, Array.toList_push]
      rfl
    · rintro ⟨hscores, hinvocations, htime, hlatency⟩
      refine ⟨?_, hinvocations, htime, hlatency⟩
      rw [← Array.toList_inj, hscores, Array.toList_push]
      rfl

/-- **Recording events leaves what they leave**, and comes to its end wherever that is something. -/
theorem noteAll_eq_ok_iff : s.noteAll events = .ok t ↔ s.After events t := by
  induction events generalizing s with
  | nil =>
    constructor
    · intro h
      exact Except.ok.inj h ▸ after_nil s
    · intro h
      exact congrArg Except.ok ((after_nil s).unique h)
  | cons event events ih =>
    have hcons : s.noteAll (event :: events) = s.note event >>= fun s' => s'.noteAll events :=
      List.foldlM_cons
    rw [hcons, bind_eq_ok_iff]
    constructor
    · rintro ⟨s', hnote, h⟩
      exact (note_eq_ok_iff.mp hnote).append (ih.mp h)
    · intro h
      -- the sums that come to an end with all events do so with the first of them
      have hinvocations := h.invocations
      have htime := h.measuredTime
      rw [← List.singleton_append, Event.invocations_append] at hinvocations
      rw [← List.singleton_append, Event.time_append] at htime
      have hcount : t.invocations.toNat < Count.bound := t.invocations.toNat_lt
      obtain ⟨s', hs'⟩ : ∃ s', s.After [event] s' :=
        exists_after (by omega) (Nat.lt_of_le_of_lt (by omega) t.measuredTime.nanos_lt)
      have hfirst := hs'.invocations
      have hfirst' := hs'.measuredTime
      obtain ⟨t', ht'⟩ : ∃ t', s'.After events t' :=
        exists_after (by omega) (Nat.lt_of_le_of_lt (by omega) t.measuredTime.nanos_lt)
      obtain rfl := (hs'.append ht').unique h
      exact ⟨s', note_eq_ok_iff.mpr hs', ih.mpr ht'⟩

/-- **The statistics of events** have their scores, their sums and their latencies. -/
theorem ofEvents_eq_ok_iff :
    ofEvents events = .ok s ↔
      s.scores.toList = events.filterMap Event.score? ∧
        Event.invocations events = s.invocations.toNat ∧
        Event.time events = s.measuredTime.nanos ∧
        s.latency = Histogram.ofSamples (Event.latencies events) := by
  have hzero : (empty : Statistics).invocations.toNat = 0 := rfl
  have hnone : (empty : Statistics).measuredTime.nanos = 0 := rfl
  rw [ofEvents, noteAll_eq_ok_iff]
  constructor
  · rintro ⟨hscores, hinvocations, htime, hlatency⟩
    rw [hzero, Nat.zero_add] at hinvocations
    rw [hnone, Nat.zero_add] at htime
    exact ⟨hscores, hinvocations, htime, hlatency⟩
  · rintro ⟨hscores, hinvocations, htime, hlatency⟩
    refine ⟨hscores, ?_, ?_, hlatency⟩
    · rw [hzero, Nat.zero_add, hinvocations]
    · rw [hnone, Nat.zero_add, htime]

/-- Events have statistics wherever their sums have words. -/
theorem exists_ofEvents_iff : (∃ s, ofEvents events = .ok s) ↔ Event.Fit events := by
  constructor
  · rintro ⟨s, hs⟩
    obtain ⟨-, hinvocations, htime, -⟩ := ofEvents_eq_ok_iff.mp hs
    exact ⟨hinvocations ▸ s.invocations.toNat_lt, htime ▸ s.measuredTime.nanos_lt⟩
  · intro h
    exact ⟨⟨(events.filterMap Event.score?).toArray, .ofNat _, ⟨_, h.time⟩, _⟩,
      ofEvents_eq_ok_iff.mpr ⟨rfl, (UInt64.toNat_ofNat_of_lt h.invocations).symm, rfl, rfl⟩⟩

/-! ### Merging -/

/-- **Merging is recording in one place.** -/
theorem merge_eq_ok_iff_ofEvents (hs : ofEvents xs = .ok s) (ht : ofEvents ys = .ok t) :
    s.merge t = .ok u ↔ ofEvents (xs ++ ys) = .ok u := by
  obtain ⟨hscores, hinvocations, htime, hlatency⟩ := ofEvents_eq_ok_iff.mp hs
  obtain ⟨hscores', hinvocations', htime', hlatency'⟩ := ofEvents_eq_ok_iff.mp ht
  rw [merge_eq_ok_iff, ofEvents_eq_ok_iff, List.filterMap_append, Event.invocations_append,
    Event.time_append, Event.latencies_append, ← Histogram.merge_ofSamples, ← hscores,
    ← hscores', hinvocations, hinvocations', htime, htime', ← hlatency, ← hlatency',
    ← Array.toList_append, Array.toList_inj]

/-- Events in two parts have statistics where each part has, and the two can be merged. -/
theorem ofEvents_append_eq_ok_iff :
    ofEvents (xs ++ ys) = .ok u ↔
      ∃ s t, ofEvents xs = .ok s ∧ ofEvents ys = .ok t ∧ s.merge t = .ok u := by
  constructor
  · intro h
    have hfit := exists_ofEvents_iff.mp ⟨u, h⟩
    obtain ⟨s, hs⟩ := exists_ofEvents_iff.mpr hfit.left
    obtain ⟨t, ht⟩ := exists_ofEvents_iff.mpr hfit.right
    exact ⟨s, t, hs, ht, (merge_eq_ok_iff_ofEvents hs ht).mpr h⟩
  · rintro ⟨s, t, hs, ht, h⟩
    exact (merge_eq_ok_iff_ofEvents hs ht).mp h

/-- The statistics of groups of events, put together one after the other. -/
def mergeAll (s : Statistics) (groups : List (List Event)) : Except Fault Statistics :=
  groups.foldlM (fun s group => do s.merge (← ofEvents group)) s

theorem mergeAll_cons_eq_ok_iff {group : List Event} {groups : List (List Event)} :
    s.mergeAll (group :: groups) = .ok u ↔
      ∃ t s', ofEvents group = .ok t ∧ s.merge t = .ok s' ∧ s'.mergeAll groups = .ok u := by
  rw [mergeAll, List.foldlM_cons, bind_eq_ok_iff]
  constructor
  · rintro ⟨s', hs', h⟩
    obtain ⟨t, ht, hmerge⟩ := bind_eq_ok_iff.mp hs'
    exact ⟨t, s', ht, hmerge, h⟩
  · rintro ⟨t, s', ht, hmerge, h⟩
    exact ⟨s', bind_eq_ok_iff.mpr ⟨t, ht, hmerge⟩, h⟩

/-- **Merged statistics depend on the events alone**, not on the groups they came in. -/
theorem mergeAll_eq_ok_iff {groups : List (List Event)} (hs : ofEvents xs = .ok s) :
    s.mergeAll groups = .ok u ↔ ofEvents (xs ++ groups.flatten) = .ok u := by
  induction groups generalizing xs s with
  | nil =>
    rw [List.flatten_nil, List.append_nil, hs]
    rfl
  | cons group groups ih =>
    rw [mergeAll_cons_eq_ok_iff, List.flatten_cons, ← List.append_assoc]
    constructor
    · rintro ⟨t, s', ht, hmerge, h⟩
      exact (ih ((merge_eq_ok_iff_ofEvents hs ht).mp hmerge)).mp h
    · intro h
      obtain ⟨s', _, hs', -, -⟩ := ofEvents_append_eq_ok_iff.mp h
      obtain ⟨_, t, hs₀, ht, hmerge⟩ := ofEvents_append_eq_ok_iff.mp hs'
      obtain rfl := Except.ok.inj (hs.symm.trans hs₀)
      exact ⟨t, s', ht, hmerge, (ih hs').mpr h⟩

end Statistics

end DivisionBenchmark

import DivisionBenchmark.Proofs.Measurement.Laps

/-!
# The laps of a runner

How many iterations there are is for the runner to say, how long they are for the clock. Both are in
a *timetable* (`DivisionBenchmark.Runner.Timetable`): the laps of the trials of an operation, those
of the warm-up and those that are measured, one after the other on one clock. It says that every
iteration comes to its end, and that what is measured can be counted.

What follows one another is `DivisionBenchmark.Chained`: the laps of a trial, the trials of an
operation, the measurements of a sweep.
-/

namespace DivisionBenchmark

/-! ### Items that follow one another -/

/-- Items that follow one another, each from the reading that the one before has come to. -/
inductive Chained {α : Type} (R : Nat → α → Nat → Prop) : Nat → List α → Nat → Prop
  /-- Where there is none, no reading is taken. -/
  | nil {taken : Nat} : Chained R taken [] taken
  /-- The first item, and the others behind it. -/
  | cons {taken reached finish : Nat} {a : α} {l : List α} (head : R taken a reached)
    (tail : Chained R reached l finish) : Chained R taken (a :: l) finish

/-- Items in two parts come to a reading in between. -/
theorem Chained.exists_of_append {α : Type} {R : Nat → α → Nat → Prop} {taken finish : Nat}
    {l l' : List α} (h : Chained R taken (l ++ l') finish) :
    ∃ reached, Chained R taken l reached ∧ Chained R reached l' finish := by
  induction l generalizing taken with
  | nil => exact ⟨taken, .nil, h⟩
  | cons a l ih =>
    cases h with
    | cons head tail =>
      obtain ⟨reached, hl, hl'⟩ := ih tail
      exact ⟨reached, .cons head hl, hl'⟩

/-- Where each item leads to a reading from which there is another, there are as many as one
likes. -/
theorem Chained.exists_of_length {α : Type} {R : Nat → α → Nat → Prop} {P : Nat → Prop}
    (h : ∀ taken, P taken → ∃ a reached, R taken a reached ∧ P reached) (n : Nat) {taken : Nat}
    (htaken : P taken) : ∃ l finish, l.length = n ∧ Chained R taken l finish := by
  induction n generalizing taken with
  | zero => exact ⟨[], taken, rfl, .nil⟩
  | succ n ih =>
    obtain ⟨a, reached, ha, hreached⟩ := h taken htaken
    obtain ⟨l, finish, hlength, hl⟩ := ih hreached
    exact ⟨a :: l, finish, congrArg (· + 1) hlength, .cons ha hl⟩

/-! ### Laps that are run -/

namespace Lap

/-- The lap is run under the clock, from one number of readings to another. -/
structure Runs (clock : Nat → UInt64) (budget : UInt64) (taken : Nat) (lap : Lap)
    (reached : Nat) : Prop where
  /-- It begins where the clock is. -/
  start : lap.start = taken
  /-- It ends. -/
  ends : lap.Ends clock budget
  /-- Its invocations can be counted. -/
  counted : lap.count < Count.bound
  /-- It leaves the clock where it has come to. -/
  finish : lap.finish = reached

/-- What laps have of something together. -/
def total (f : Lap → Nat) (laps : List Lap) : Nat := laps.foldr (fun lap sum => f lap + sum) 0

/-- The invocations of laps. -/
def invocations (laps : List Lap) : Nat := total count laps

/-- The nanoseconds of laps. -/
def time (clock : Nat → UInt64) (laps : List Lap) : Nat :=
  total (fun lap => (lap.elapsed clock).toNat) laps

/-- The score of a lap. -/
def score (clock : Nat → UInt64) (lap : Lap) : Float :=
  nanosPerOperation (.ofNanos (lap.elapsed clock)) (.ofNat lap.count)

/-- The laps can be counted together: their invocations have a count, and their time is a
duration. -/
structure Fit (clock : Nat → UInt64) (laps : List Lap) : Prop where
  /-- The invocations are below the limit of a count. -/
  invocations : Lap.invocations laps < Count.bound
  /-- The nanoseconds are below the limit of a duration. -/
  time : Lap.time clock laps < Count.bound * 1000000000

variable {clock : Nat → UInt64} {laps laps' : List Lap}

theorem total_append (f : Lap → Nat) : total f (laps ++ laps') = total f laps + total f laps' := by
  induction laps with
  | nil => exact (Nat.zero_add _).symm
  | cons lap laps ih => exact (congrArg (f lap + ·) ih).trans (Nat.add_assoc _ _ _).symm

@[simp] theorem invocations_append :
    invocations (laps ++ laps') = invocations laps + invocations laps' :=
  total_append count

@[simp] theorem time_append : time clock (laps ++ laps') = time clock laps + time clock laps' :=
  total_append _

@[simp] theorem invocations_cons (lap : Lap) (laps : List Lap) :
    invocations (lap :: laps) = lap.count + invocations laps := rfl

theorem time_singleton (lap : Lap) : time clock [lap] = (lap.elapsed clock).toNat :=
  Nat.add_zero _

theorem Fit.left (h : Fit clock (laps ++ laps')) : Fit clock laps where
  invocations := Nat.lt_of_le_of_lt (Nat.le_add_right _ _) (invocations_append ▸ h.invocations)
  time := Nat.lt_of_le_of_lt (Nat.le_add_right _ _) (time_append ▸ h.time)

theorem Fit.right (h : Fit clock (laps ++ laps')) : Fit clock laps' where
  invocations := Nat.lt_of_le_of_lt (Nat.le_add_left _ _) (invocations_append ▸ h.invocations)
  time := Nat.lt_of_le_of_lt (Nat.le_add_left _ _) (time_append ▸ h.time)

/-- What is counted of laps that fit has its words. -/
theorem Fit.exists_words (h : Fit clock laps) :
    ∃ (count : UInt64) (duration : Duration), count.toNat = Lap.invocations laps ∧
      duration.nanos = Lap.time clock laps :=
  ⟨.ofNat _, ⟨_, h.time⟩, UInt64.toNat_ofNat_of_lt h.invocations, rfl⟩

/-- Laps that end have an invocation each. -/
theorem length_le_invocations {budget : UInt64} {taken finish : Nat}
    (h : Chained (Runs clock budget) taken laps finish) : laps.length ≤ invocations laps := by
  induction h with
  | nil => exact Nat.le_refl 0
  | @cons _ _ _ lap laps head tail ih =>
    have hpos := head.ends.more
    rw [List.length_cons, invocations_cons]
    exact Nat.add_comm 1 laps.length ▸ Nat.add_le_add hpos ih

end Lap

/-! ### Trials and timetables -/

/-- **The laps of a trial.** -/
structure TrialLaps where
  /-- The laps of the warm-up. -/
  warmup : List Lap
  /-- The laps that are measured. -/
  measured : List Lap

/-- The measured laps of trials, trial by trial. -/
def TrialLaps.measuredOf (trials : List TrialLaps) : List Lap := trials.flatMap measured

/-- A trial is run under the clock: its laps are as many as the runner says, and the measured ones
follow those of the warm-up. -/
structure TrialLaps.Runs (runner : Runner) (clock : Nat → UInt64) (taken : Nat)
    (trial : TrialLaps) (reached : Nat) : Prop where
  /-- So many iterations are for nothing. -/
  warmup : trial.warmup.length = runner.warmupIterations.toNat
  /-- So many iterations are measured. -/
  measured : trial.measured.length = runner.measurementIterations.toNat
  /-- The laps follow one another. -/
  laps : Chained (Lap.Runs clock runner.iterationTime.toNanos) taken
    (trial.warmup ++ trial.measured) reached

/-- **A timetable of a runner**: the trials of an operation under a clock, from one number of
readings to another. What is measured can be counted. -/
structure Runner.Timetable (runner : Runner) (clock : Nat → UInt64) (taken : Nat)
    (trials : List TrialLaps) (finish : Nat) : Prop where
  /-- There are so many trials. -/
  length : trials.length = runner.trials.toNat
  /-- The trials follow one another. -/
  consecutive : Chained (TrialLaps.Runs runner clock) taken trials finish
  /-- The measured laps can be counted. -/
  fit : Lap.Fit clock (TrialLaps.measuredOf trials)

/-- Where only one iteration is run, a lap that ends is the timetable. -/
theorem Runner.Timetable.of_lap {runner : Runner} {clock : Nat → UInt64} {lap : Lap}
    (hwarmup : runner.warmupIterations = 0) (hmeasured : runner.measurementIterations = 1)
    (htrials : runner.trials = 1) (hends : lap.Ends clock runner.iterationTime.toNanos)
    (hfit : Lap.Fit clock [lap]) :
    runner.Timetable clock lap.start [⟨[], [lap]⟩] lap.finish where
  length := htrials ▸ rfl
  consecutive := .cons ⟨hwarmup ▸ rfl, hmeasured ▸ rfl,
    .cons ⟨rfl, hends, hfit.invocations, rfl⟩ .nil⟩ .nil
  fit := hfit

end DivisionBenchmark

import DivisionBenchmark.Config.Validity
import DivisionBenchmark.Report.Plan
import DivisionBenchmark.Text.Split

/-!
# The estimate in a plan

How long a run will take is a product: of the time of an iteration, the iterations of a trial, which
are a sum of two settings, the trials, and the benchmarks. Every sum, product and multiple on the
way to it is checked, and there is no plan where one of them is too great
(`Config.exists_plan_iff`). The two numbers that the time is multiplied by are cut to their lower 32
bits before, and no check sees it: what is shown is the time of the run exactly where both numbers
fit (`Config.estimate_of_plan`), or where there is no time to show, which is never so for a valid
configuration (`Config.wholeNanos_pos`).

Validity bounds the settings from below only. It keeps neither the checks from failing
(`Config.not_exists_plan_of_validate`) nor the numbers from being cut short
(`Config.not_estimate_exact`).

Main definitions:

* `DivisionBenchmark.Config.wholeNanos`, `DivisionBenchmark.Config.shownNanos`: the time of a run,
  and the time that is shown for it;
* `DivisionBenchmark.Config.Countable`: where all checks on the way to the estimate pass;
* `DivisionBenchmark.Text.IsLastLine`: the last line of a text.
-/

namespace DivisionBenchmark

/-! ### The time of a run -/

/-- The iterations of one benchmark, over all its trials. -/
def RunnerSettings.iterations (r : RunnerSettings) : Nat :=
  (r.warmupIterations.toNat + r.measurementIterations.toNat) * r.trials.toNat

/-- The nanoseconds shown for one benchmark: its iterations enter by their lower 32 bits. -/
def RunnerSettings.shownNanos (r : RunnerSettings) : Nat :=
  r.iterationTime.nanos * (r.iterations % UInt32.size)

namespace Config

/-- The nanoseconds a run takes, if every iteration takes the time it is given. -/
def wholeNanos (c : Config) : Nat :=
  c.runner.iterationTime.nanos * c.runner.iterations * c.workload.benchmarks

/-- The nanoseconds shown for a run: its benchmarks enter by the lower 32 bits of their number. -/
def shownNanos (c : Config) : Nat :=
  c.runner.shownNanos * (c.workload.benchmarks % UInt32.size)

/-- **Where the estimate can be computed**: the counts have 64 bits, and so have the seconds. -/
structure Countable (c : Config) : Prop where
  /-- The benchmarks can be counted. -/
  benchmarks_lt : c.workload.benchmarks < Count.bound
  /-- The iterations of a trial can be counted. -/
  trial_lt : c.runner.warmupIterations.toNat + c.runner.measurementIterations.toNat < Count.bound
  /-- The iterations of a benchmark can be counted. -/
  iterations_lt : c.runner.iterations < Count.bound
  /-- The time shown for a benchmark is a duration. -/
  benchmarkNanos_lt : c.runner.shownNanos < Count.bound * 1000000000
  /-- The time shown for the run is a duration. -/
  runNanos_lt : c.shownNanos < Count.bound * 1000000000

instance (c : Config) : Decidable c.Countable :=
  decidable_of_iff
    (c.workload.benchmarks < Count.bound ∧
      c.runner.warmupIterations.toNat + c.runner.measurementIterations.toNat < Count.bound ∧
      c.runner.iterations < Count.bound ∧ c.runner.shownNanos < Count.bound * 1000000000 ∧
      c.shownNanos < Count.bound * 1000000000)
    ⟨fun h => ⟨h.1, h.2.1, h.2.2.1, h.2.2.2.1, h.2.2.2.2⟩,
      fun h => ⟨h.benchmarks_lt, h.trial_lt, h.iterations_lt, h.benchmarkNanos_lt, h.runNanos_lt⟩⟩

end Config

/-! ### Where the estimate is computed -/

/-- The benchmarks are counted exactly where they can be. -/
theorem Workload.benchmarkCount_eq_ok_iff {w : Workload} {count : UInt64} :
    w.benchmarkCount = .ok count ↔ w.benchmarks = count.toNat := by
  have hcount := count.toNat_lt
  unfold benchmarkCount Count.bound
  split
  · rename_i h
    rw [Except.ok.injEq, ← UInt64.toNat_inj, UInt64.toNat_ofNat_of_lt' h]
  · constructor
    · intro h; cases h
    · intro h; omega

/-- The time of one benchmark is computed exactly where its iterations can be counted and the time
is a duration. -/
theorem RunnerSettings.benchmarkTime_eq_ok_iff {r : RunnerSettings} {d : Duration} :
    r.benchmarkTime = .ok d ↔
      r.warmupIterations.toNat + r.measurementIterations.toNat < Count.bound ∧
        r.iterations < Count.bound ∧ d.nanos = r.shownNanos := by
  simp only [benchmarkTime, bind_eq_ok_iff, Count.add_eq_ok_iff, Count.mul_eq_ok_iff,
    Duration.scale_eq_ok_iff, UInt64.toNat_toUInt32]
  constructor
  · rintro ⟨perTrial, hsum, perBenchmark, hproduct, htime⟩
    have hiterations : r.iterations = perBenchmark.toNat := by
      rw [← hproduct, ← hsum]
      rfl
    refine ⟨hsum ▸ perTrial.toNat_lt, hiterations ▸ perBenchmark.toNat_lt, ?_⟩
    rw [← htime, ← hiterations]
    rfl
  · rintro ⟨hsum, hproduct, htime⟩
    refine ⟨.ofNat _, (UInt64.toNat_ofNat_of_lt' hsum).symm, .ofNat r.iterations, ?_, ?_⟩
    · rw [UInt64.toNat_ofNat_of_lt' hsum, UInt64.toNat_ofNat_of_lt' hproduct]
      rfl
    · rw [UInt64.toNat_ofNat_of_lt' hproduct, htime]
      rfl

namespace Config

variable {c : Config}

/-- **The estimate is computed where all its checks pass**, and is the time that is shown. -/
theorem estimate_eq_ok_iff {d : Duration} :
    c.estimate = .ok d ↔ c.Countable ∧ d.nanos = c.shownNanos := by
  simp only [estimate, bind_eq_ok_iff, Workload.benchmarkCount_eq_ok_iff,
    RunnerSettings.benchmarkTime_eq_ok_iff, Duration.scale_eq_ok_iff, UInt64.toNat_toUInt32]
  constructor
  · rintro ⟨benchmarks, hbenchmarks, time, ⟨hsum, hproduct, htime⟩, hd⟩
    have hshown : c.shownNanos = d.nanos := by
      rw [← hd, ← hbenchmarks, htime]
      rfl
    exact ⟨⟨hbenchmarks ▸ benchmarks.toNat_lt, hsum, hproduct, htime ▸ time.nanos_lt,
      hshown ▸ d.nanos_lt⟩, hshown.symm⟩
  · rintro ⟨h, hd⟩
    refine ⟨.ofNat c.workload.benchmarks, (UInt64.toNat_ofNat_of_lt' h.benchmarks_lt).symm,
      ⟨_, h.benchmarkNanos_lt⟩, ⟨h.trial_lt, h.iterations_lt, rfl⟩, ?_⟩
    rw [UInt64.toNat_ofNat_of_lt' h.benchmarks_lt, hd]
    rfl

/-- A plan is its settings and the estimate, a line each. -/
theorem plan_eq_ok_iff {text : String} :
    c.plan = .ok text ↔ ∃ d, c.estimate = .ok d ∧
      text = String.join ((c.settingLines ++ [estimateLine c.workload.benchmarks d]).map
        (· ++ "\n")) := by
  unfold plan
  rw [bind_eq_ok_iff]
  refine exists_congr fun d => and_congr_right fun _ => ?_
  constructor
  · intro h
    exact (Except.ok.inj h).symm
  · rintro rfl
    rfl

/-- **Where there is a plan**: the checks on the way to the estimate are all that can fail. -/
theorem exists_plan_iff : (∃ text, c.plan = .ok text) ↔ c.Countable := by
  constructor
  · rintro ⟨text, htext⟩
    obtain ⟨d, hd, -⟩ := plan_eq_ok_iff.mp htext
    exact (estimate_eq_ok_iff.mp hd).1
  · intro h
    have hd : c.estimate = .ok ⟨c.shownNanos, h.runNanos_lt⟩ := estimate_eq_ok_iff.mpr ⟨h, rfl⟩
    exact ⟨_, plan_eq_ok_iff.mpr ⟨_, hd, rfl⟩⟩

/-- A configuration can be valid and have no plan: one more iteration than the greatest number of
iterations for warming up is too many. -/
theorem not_exists_plan_of_validate :
    ¬ ∀ (c : Config) (host : Host), c.validate host = .ok () → ∃ text, c.plan = .ok text := by
  intro h
  obtain ⟨text, htext⟩ := h
    { runner := { warmupIterations := 18446744073709551615, iterationMillis := 1 } }
    ⟨1, ⟨fun _ => .error .notFound, fun _ => false, fun _ => .ok ()⟩⟩ rfl
  obtain ⟨d, hd, -⟩ := plan_eq_ok_iff.mp htext
  exact absurd (estimate_eq_ok_iff.mp hd).1 (by decide)

/-! ### Where the estimate is exact -/

/-- A valid configuration takes some time. -/
theorem wholeNanos_pos {host : Host} (h : c.validate host = .ok ()) : 0 < c.wholeNanos := by
  obtain ⟨hworkload, hrunner, -⟩ := validate_eq_ok_iff.mp h
  obtain ⟨hkinds, hsizes, -, hoperations⟩ := Workload.validate_eq_ok_iff.mp hworkload
  obtain ⟨hmeasured, htrials, hmillis, -⟩ := RunnerSettings.validate_eq_ok_iff.mp hrunner
  have toNat_pos : ∀ n : UInt64, n ≠ 0 → 0 < n.toNat := fun n hn =>
    Nat.pos_of_ne_zero fun hzero => hn (UInt64.toNat_inj.mp hzero)
  refine Nat.mul_pos (Nat.mul_pos ?_ ?_) ?_
  · exact Nat.mul_pos (toNat_pos _ hmillis) (by decide)
  · exact Nat.mul_pos (Nat.add_pos_right _ (toNat_pos _ hmeasured)) (toNat_pos _ htrials)
  · rw [Workload.benchmarks, Workload.length_trials]
    exact Nat.mul_pos (Nat.mul_pos (List.length_pos_iff.mpr hkinds)
      (List.length_pos_iff.mpr hsizes)) (List.length_pos_iff.mpr hoperations)

/-- What is shown is never more than the time of the run. -/
theorem shownNanos_le_wholeNanos : c.shownNanos ≤ c.wholeNanos :=
  Nat.mul_le_mul (Nat.mul_le_mul_left _ (Nat.mod_le _ _)) (Nat.mod_le _ _)

/-- **What is shown is the time of the run where both numbers have 32 bits**, and otherwise only
where there is no time to show. -/
theorem shownNanos_eq_wholeNanos_iff :
    c.shownNanos = c.wholeNanos ↔
      c.wholeNanos = 0 ∨
        c.runner.iterations < UInt32.size ∧ c.workload.benchmarks < UInt32.size := by
  have mod_lt : ∀ n, UInt32.size ≤ n → n % UInt32.size < n := fun n hn =>
    Nat.lt_of_lt_of_le (Nat.mod_lt n (by decide)) hn
  constructor
  · intro heq
    rcases Nat.eq_zero_or_pos c.wholeNanos with hzero | hpos
    · exact .inl hzero
    -- no factor is zero, so a number that is cut short makes the product smaller
    have hbenchmarks : 0 < c.workload.benchmarks := Nat.pos_of_mul_pos_left hpos
    have hbenchmark : 0 < c.runner.iterationTime.nanos * c.runner.iterations :=
      Nat.pos_of_mul_pos_right hpos
    have htime : 0 < c.runner.iterationTime.nanos := Nat.pos_of_mul_pos_right hbenchmark
    refine .inr ⟨Nat.lt_of_not_le fun hle => ?_, Nat.lt_of_not_le fun hle => ?_⟩
    · have hlt : c.shownNanos < c.wholeNanos := calc
        c.shownNanos ≤ c.runner.shownNanos * c.workload.benchmarks :=
          Nat.mul_le_mul_left _ (Nat.mod_le _ _)
        _ < c.wholeNanos :=
          Nat.mul_lt_mul_of_pos_right (Nat.mul_lt_mul_of_pos_left (mod_lt _ hle) htime) hbenchmarks
      exact Nat.ne_of_lt hlt heq
    · have hlt : c.shownNanos < c.wholeNanos := calc
        c.shownNanos ≤ c.runner.iterationTime.nanos * c.runner.iterations *
            (c.workload.benchmarks % UInt32.size) :=
          Nat.mul_le_mul_right _ (Nat.mul_le_mul_left _ (Nat.mod_le _ _))
        _ < c.wholeNanos := Nat.mul_lt_mul_of_pos_left (mod_lt _ hle) hbenchmark
      exact Nat.ne_of_lt hlt heq
  · rintro (hzero | ⟨hiterations, hbenchmarks⟩)
    · rw [hzero]
      exact Nat.le_zero.mp (hzero ▸ shownNanos_le_wholeNanos)
    · rw [shownNanos, RunnerSettings.shownNanos, Nat.mod_eq_of_lt hiterations,
        Nat.mod_eq_of_lt hbenchmarks, wholeNanos]

end Config

/-! ### The last line -/

/-- **The last line of a text**: what stands between its last two newlines, the second of which
ends it. -/
def Text.IsLastLine (line text : String) : Prop :=
  ∃ above, text.toList = above ++ '\n' :: (line.toList ++ ['\n']) ∧ '\n' ∉ line.toList

/-- A text has one last line: read backwards, it is what stands before the first newline but the one
that ends the text. -/
theorem Text.IsLastLine.unique {line line' text : String} (h : IsLastLine line text)
    (h' : IsLastLine line' text) : line = line' := by
  have backwards : ∀ {line : String}, IsLastLine line text →
      ∃ above, splitOnce? '\n' text.toList.reverse.tail = some (line.toList.reverse, above) := by
    rintro line ⟨above, htext, hline⟩
    refine ⟨above.reverse, splitOnce?_eq_some_iff.mpr ⟨?_, mt List.mem_reverse.mp hline⟩⟩
    rw [htext]
    simp
  obtain ⟨above, hline⟩ := backwards h
  obtain ⟨above', hline'⟩ := backwards h'
  rw [hline, Option.some.injEq, Prod.mk.injEq, List.reverse_inj] at hline'
  exact String.toList_inj.mp hline'.1

/-- Of lines that each end with a newline, the last one is the last line. -/
theorem Text.isLastLine_join {lines : List String} {line : String} (hlines : lines ≠ [])
    (hline : '\n' ∉ line.toList) :
    IsLastLine line (String.join ((lines ++ [line]).map (· ++ "\n"))) := by
  rw [← List.dropLast_concat_getLast hlines]
  refine ⟨(String.join (lines.dropLast.map (· ++ "\n"))).toList ++ (lines.getLast hlines).toList,
    ?_, hline⟩
  simp [String.toList_join]

/-- A numeral holds digits only. -/
theorem Text.newline_notMem_toDigits (n : Nat) : '\n' ∉ Nat.toDigits 10 n := fun h =>
  absurd (Nat.isDigit_of_mem_toDigits (by decide) (by decide) h) (by decide)

theorem Dyadic.newline_notMem_fixedText (places units : Nat) :
    '\n' ∉ (fixedText places units).toList := by
  unfold fixedText
  split <;> simp [Text.newline_notMem_toDigits]

theorem Duration.newline_notMem_toText (d : Duration) : '\n' ∉ d.toText.toList := by
  unfold toText
  split
  · simp [Text.newline_notMem_toDigits]
  · split
    · simp [Dyadic.newline_notMem_fixedText]
    · split <;> simp [Dyadic.newline_notMem_fixedText]

namespace Config

variable {c : Config}

theorem estimateLine_eq (benchmarks : Nat) (d : Duration) :
    estimateLine benchmarks d =
      "  Estimated:     " ++ benchmarks.repr ++ " benchmarks, ~" ++ d.toText :=
  rfl

/-- The last line of a plan is the estimate, whatever the cores are called. -/
theorem isLastLine_of_plan {text : String} (h : c.plan = .ok text) :
    ∃ d, c.estimate = .ok d ∧ Text.IsLastLine (estimateLine c.workload.benchmarks d) text := by
  obtain ⟨d, hd, rfl⟩ := plan_eq_ok_iff.mp h
  refine ⟨d, hd, Text.isLastLine_join (List.cons_ne_nil _ _) ?_⟩
  rw [estimateLine_eq]
  simp [Text.newline_notMem_toDigits, Duration.newline_notMem_toText]

/-- **The estimate of a plan.** The last line gives the number of benchmarks, and a time in which
the iterations and the benchmarks count by the lower 32 bits of their numbers. That is the time of
the run where both numbers have 32 bits, and otherwise only where there is no time to show, which is
never so for a valid configuration. -/
theorem estimate_of_plan {text : String} (h : c.plan = .ok text) :
    ∃ d : Duration,
      Text.IsLastLine
        ("  Estimated:     " ++ (c.workload.divisorTypes.length * c.workload.bufferSizes.length *
          c.workload.operations.length).repr ++ " benchmarks, ~" ++ d.toText) text ∧
      d.nanos = c.runner.iterationTime.nanos * (c.runner.iterations % UInt32.size) *
        (c.workload.benchmarks % UInt32.size) ∧
      (d.nanos = c.wholeNanos ↔
        c.wholeNanos = 0 ∨
          c.runner.iterations < UInt32.size ∧ c.workload.benchmarks < UInt32.size) ∧
      ∀ host, c.validate host = .ok () → 0 < c.wholeNanos := by
  obtain ⟨d, hd, hline⟩ := isLastLine_of_plan h
  have hnanos := (estimate_eq_ok_iff.mp hd).2
  refine ⟨d, ?_, hnanos, ?_, fun host hvalid => wholeNanos_pos hvalid⟩
  · rwa [estimateLine_eq, Workload.benchmarks, Workload.length_trials] at hline
  · rw [hnanos]
    exact shownNanos_eq_wholeNanos_iff

/-- The plan of a run that was told nothing: half a minute for each of 21 benchmarks. -/
theorem estimate_of_plan_of_default :
    ∃ text, Config.default.plan = .ok text ∧
      Text.IsLastLine "  Estimated:     21 benchmarks, ~630.00s" text ∧
      Config.default.wholeNanos = 630000000000 := by
  have hestimate : Config.default.estimate = .ok ⟨630000000000, by decide⟩ :=
    estimate_eq_ok_iff.mpr ⟨by decide, by decide⟩
  have hplan := plan_eq_ok_iff.mpr ⟨_, hestimate, rfl⟩
  obtain ⟨d, hline, -, hexact, -⟩ := estimate_of_plan hplan
  have hwhole : Config.default.wholeNanos = 630000000000 := by decide
  have hd : d.nanos = 630000000000 := (hexact.mpr (.inr (by decide))).trans hwhole
  obtain rfl : d = ⟨630000000000, by decide⟩ := Duration.ext hd
  exact ⟨_, hplan, hline, hwhole⟩

/-- Where the iterations are a multiple of two to the 32, a run is shown as taking no time. -/
theorem not_estimate_exact :
    ¬ ∀ (c : Config) (text : String), c.plan = .ok text →
      ∃ d : Duration, d.nanos = c.wholeNanos ∧
        Text.IsLastLine (estimateLine c.workload.benchmarks d) text := by
  intro h
  let c : Config :=
    { runner :=
      { warmupIterations := 4294967295, measurementIterations := 1, trials := 1,
        iterationMillis := 1 } }
  have hestimate : c.estimate = .ok .zero :=
    estimate_eq_ok_iff.mpr ⟨by decide, by decide⟩
  have hplan := plan_eq_ok_iff.mpr ⟨_, hestimate, rfl⟩
  obtain ⟨shown, hshown, hlast⟩ := isLastLine_of_plan hplan
  obtain ⟨whole, hwhole, hlast'⟩ := h c _ hplan
  obtain rfl : shown = .zero := Except.ok.inj (hshown.symm.trans hestimate)
  have hnanos : c.wholeNanos = 90194313216000000 := by decide
  obtain rfl : whole = ⟨90194313216000000, by decide⟩ := Duration.ext (hwhole.trans hnanos)
  exact absurd (hlast.unique hlast') (by decide +kernel)

end Config

end DivisionBenchmark

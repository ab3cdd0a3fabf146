import DivisionBenchmark.Config.Validity
import DivisionBenchmark.Proofs.Config.Layers
import DivisionBenchmark.Proofs.Time.Spelling

/-!
# An iteration time that is given

An iteration time on the command line goes a long way: its text is read as nanoseconds, these are
covered by milliseconds, and the milliseconds lie over those of the configuration below and are
checked. Nothing is lost on the way. The milliseconds are the fewest that cover the time
(`DivisionBenchmark.Duration.exists_ceilMillis`), so a time that is not zero is not rejected as
zero, and a time that does not fit in 64 bits of nanoseconds is told instead of cut down.

Main statement: `DivisionBenchmark.CommandLine.Options.override_of_spelledOnce`.
-/

namespace DivisionBenchmark

/-- **A time of 64 bits of nanoseconds is covered by milliseconds**, and by no fewer than these. -/
theorem Duration.exists_ceilMillis {d : Duration} (h : d.nanos < Count.bound) :
    ∃ millis, d.ceilMillis = .ok millis ∧
      ∀ m, d.nanos ≤ m * 1000000 ↔ millis.toNat ≤ m := by
  have hlt := ceil_lt_bound h
  refine ⟨_, ceilMillis_eq_ok hlt, fun m => ?_⟩
  rw [UInt64.toNat_ofNat_of_lt' hlt]
  omega

/-- The check of the cores does not reject the iteration time. -/
theorem RunnerSettings.validateCores_ne_noIterationTime {r : RunnerSettings} {available : Nat} :
    r.validateCores available ≠ .error .noIterationTime := by
  unfold validateCores
  split
  · nofun
  · split
    · nofun
    · nofun
    · split <;> nofun

/-- The iteration time is rejected as zero where it is zero and nothing before it is. -/
theorem RunnerSettings.validate_eq_noIterationTime_iff {r : RunnerSettings} {available : Nat} :
    r.validate available = .error .noIterationTime ↔
      r.measurementIterations ≠ 0 ∧ r.trials ≠ 0 ∧ r.iterationMillis = 0 := by
  rw [validate]
  by_cases hmeasurement : r.measurementIterations = 0
  · simp [hmeasurement]
  by_cases htrials : r.trials = 0
  · simp [htrials, hmeasurement]
  by_cases htime : r.iterationMillis = 0
  · simp [htime, htrials, hmeasurement]
  · rw [if_neg hmeasurement, if_neg htrials, if_neg htime]
    exact iff_of_false validateCores_ne_noIterationTime fun h => htime h.2.2

namespace CommandLine.Options

variable {o : Options} {text : String}

/-- A time that is read is covered by the milliseconds of the configuration. -/
theorem exists_override_of_parse {time : Duration} (htext : o.iterationTime = some text)
    (htime : IterationTime.parse text = .ok time) (base : Config) :
    ∃ c, o.override base = .ok c ∧ time.ceilMillis = .ok c.runner.iterationMillis := by
  have htimely : o.Timely := fun text' htext' => by
    obtain rfl := Option.some.inj (htext.symm.trans htext')
    exact ⟨time, htime⟩
  obtain ⟨c, hover, hfields⟩ := exists_override_of_timely htimely base
  obtain ⟨millis, hceil, hmillis⟩ := IterationTime.ceilMillis_of_parse htime
  refine ⟨c, hover, ?_⟩
  have hfield : c.runner.iterationMillis =
      (o.iterationTime.bind IterationTime.millis?).getD base.runner.iterationMillis :=
    hfields .iterationMillis
  rw [hceil, hfield, htext, Option.bind_some, hmillis, Option.getD_some]

/-- **An iteration time that is given is never shortened or lost.** A number with at most one unit,
in whatever letters and with whatever blanks, is read as this many units. The milliseconds of the
configuration are the fewest that cover it, whatever stands below and whatever else the options say,
and they are rejected as zero where the number is. If the time needs more than 64 bits of
nanoseconds, this is told. -/
theorem override_of_spelledOnce {n : Nat} {u : IterationTime.Unit}
    (htext : o.iterationTime = some text) (h : IterationTime.SpelledOnce text.toList n u)
    (base : Config) :
    (n * u.nanos < Count.bound →
      ∃ c time, o.override base = .ok c ∧
        IterationTime.parse text = .ok time ∧ time.nanos = n * u.nanos ∧
        time.ceilMillis = .ok c.runner.iterationMillis ∧
        (∀ m, n * u.nanos ≤ m * 1000000 ↔ c.runner.iterationMillis.toNat ≤ m) ∧
        ∀ available, c.runner.validate available = .error .noIterationTime ↔
          c.runner.measurementIterations ≠ 0 ∧ c.runner.trials ≠ 0 ∧ n = 0) ∧
    (Count.bound ≤ n * u.nanos →
      ∃ error, o.override base = .error error ∧ error.chain =
        ["Invalid iteration time",
          "Time out of range: " ++ String.ofList (IterationTime.folded text.toList)]) := by
  obtain ⟨times, -, hspells⟩ := h
  have hparse := IterationTime.parse_of_spells hspells
  constructor
  · intro hlt
    rw [if_pos hlt] at hparse
    have hnanos : (Duration.ofNanos (UInt64.ofNat (n * u.nanos))).nanos = n * u.nanos :=
      UInt64.toNat_ofNat_of_lt' hlt
    obtain ⟨c, hover, hceil⟩ := exists_override_of_parse htext hparse base
    obtain ⟨millis, hmillis, hleast⟩ := Duration.exists_ceilMillis (hnanos.trans_lt hlt)
    obtain rfl : millis = c.runner.iterationMillis := Except.ok.inj (hmillis.symm.trans hceil)
    rw [hnanos] at hleast
    refine ⟨c, _, hover, hparse, hnanos, hceil, hleast, fun available => ?_⟩
    have hzero : c.runner.iterationMillis = 0 ↔ n = 0 := by
      have hunit : 0 < u.nanos := by cases u <;> decide
      rw [← UInt64.toNat_inj, UInt64.toNat_zero, ← Nat.le_zero, ← hleast 0, Nat.zero_mul,
        Nat.le_zero, Nat.mul_eq_zero, or_iff_left hunit.ne']
    rw [RunnerSettings.validate_eq_noIterationTime_iff, hzero]
  · intro hle
    rw [if_neg (Nat.not_lt.mpr hle)] at hparse
    exact ⟨_, override_of_unread htext hparse base, rfl⟩

/-- One and a half milliseconds are two, and the seconds that do not fit any more are told. -/
theorem override_of_spelledOnce_of_blanks :
    (∃ c, override { iterationTime := some "\t+1500 uS " } { runner := { iterationMillis := 7 } } =
        .ok c ∧ c.runner.iterationMillis.toNat = 2 ∧
        c.runner.validate 1 ≠ .error .noIterationTime) ∧
      ∃ error, override { iterationTime := some "18446744074 S" } {} = .error error ∧
        error.chain = ["Invalid iteration time", "Time out of range: 18446744074 s"] := by
  have hshort : IterationTime.SpelledOnce "\t+1500 uS ".toList 1500 .micros :=
    ⟨1, Nat.le_refl 1, ⟨['+', '1', '5', '0', '0'], [' '], ['u', 'S'], rfl,
      Text.readCount_eq_ok_iff.mp rfl, List.forall_mem_singleton.mpr rfl, rfl⟩, nofun⟩
  have hlong : IterationTime.SpelledOnce "18446744074 S".toList 18446744074 .seconds :=
    ⟨1, Nat.le_refl 1, ⟨['1', '8', '4', '4', '6', '7', '4', '4', '0', '7', '4'], [' '], ['S'],
      rfl, Text.readCount_eq_ok_iff.mp rfl, List.forall_mem_singleton.mpr rfl, rfl⟩, nofun⟩
  obtain ⟨hread, -⟩ := override_of_spelledOnce
    (o := { iterationTime := some "\t+1500 uS " }) rfl hshort
    { runner := { iterationMillis := 7 } }
  obtain ⟨-, hrange⟩ := override_of_spelledOnce
    (o := { iterationTime := some "18446744074 S" }) rfl hlong {}
  obtain ⟨c, time, hover, -, -, -, hleast, hvalid⟩ := hread (by decide)
  obtain ⟨error, herror, hchain⟩ := hrange (by decide)
  refine ⟨⟨c, hover, ?_, fun h => absurd ((hvalid 1).mp h).2.2 (by decide)⟩, error, herror, ?_⟩
  · have htwo := (hleast 2).mp (by decide)
    have hone := mt (hleast 1).mpr (by decide)
    omega
  · rw [hchain]
    rfl

end CommandLine.Options

end DivisionBenchmark

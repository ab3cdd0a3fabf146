import DivisionBenchmark.Proofs.Config.Checks

/-!
# What options are checked for before they are merged

Options are checked twice: by themselves, and as a part of the configuration they come to when they
are laid over another one. Both checks look at the same fields in the same order. To validate
options is to check what they say of the early fields
(`DivisionBenchmark.CommandLine.Options.validate_eq_forM`), and over a valid configuration nothing
can be wrong but what the options say. So the full check is that of the options, followed by the
check of what they say of the late fields
(`DivisionBenchmark.CommandLine.Options.validate_override`): an iteration time, cores and the file
of a report. What can be wrong with these is listed in
`DivisionBenchmark.CommandLine.Options.Brings`.

Main statement: `DivisionBenchmark.CommandLine.Options.validate_agrees`.
-/

namespace DivisionBenchmark

/-- No time is covered by no milliseconds, but the one that is zero. -/
theorem IterationTime.millis?_eq_zero_iff {text : String} :
    millis? text = some 0 ↔ ∃ time, parse text = .ok time ∧ time.nanos = 0 := by
  rw [millis?]
  cases hparse : parse text with
  | error cause => simp [Except.toOption]
  | ok time =>
    have hmillis := Duration.ceil_lt_bound (nanos_lt_of_parse hparse)
    simp only [Except.toOption, Option.map_some, Option.some.injEq, Except.ok.injEq,
      exists_eq_left', ← UInt64.toNat_inj, UInt64.toNat_ofNat_of_lt' hmillis, UInt64.toNat_zero]
    omega

namespace CommandLine

open Config (Field)
open Config.Invalid (rejectIf rejectIf_bind rejectIf_eq_error_iff)

/-- What a configuration is rejected for, where the options it comes from are. -/
def OptionError.invalid : OptionError → Config.Invalid
  | .zeroBufferSize => .zeroBufferSize
  | .noMeasurementIteration => .noMeasurementIteration
  | .noTrial => .noTrial

namespace Options

variable {o : Options} {base c : Config} {host : Host}

/-! ### What options say is checked -/

/-- **The check of what options say of a field**: it passes where they say nothing. -/
def check (o : Options) (host : Host) (field : Field) : Except Config.Invalid Unit :=
  (o.said field).elim (.ok ()) (field.check host)

/-- What is said fails, if the check does. -/
theorem exists_said_of_check {field : Field} {error : Config.Invalid}
    (h : o.check host field = .error error) :
    ∃ value, o.said field = some value ∧ field.check host value = .error error := by
  unfold check at h
  cases hsaid : o.said field with
  | none => rw [hsaid] at h; cases h
  | some value => rw [hsaid] at h; exact ⟨value, rfl, h⟩

section fields

variable (o host)

/-- A list of which something is said is not empty. -/
theorem check_divisorTypes : o.check host .divisorTypes = .ok () := by
  unfold check said
  cases o.divisorTypes <;> rfl

theorem check_operations : o.check host .operations = .ok () := by
  unfold check said
  cases o.operations <;> rfl

theorem check_bufferSizes :
    o.check host .bufferSizes = rejectIf (0 ∈ o.bufferSizes) .zeroBufferSize := by
  unfold check said
  cases o.bufferSizes <;> rfl

theorem elim_rejectIf (said : Option UInt64) (error : Config.Invalid) :
    said.elim (.ok ()) (fun n => rejectIf (n = 0) error) = rejectIf (said = some 0) error := by
  cases said with
  | none => rfl
  | some n => simp only [Option.elim_some, Option.some.injEq]

theorem check_measurementIterations :
    o.check host .measurementIterations =
      rejectIf (o.measurementIterations = some 0) .noMeasurementIteration :=
  elim_rejectIf _ _

theorem check_trials : o.check host .trials = rejectIf (o.trials = some 0) .noTrial :=
  elim_rejectIf _ _

theorem check_iterationMillis :
    o.check host .iterationMillis =
      rejectIf (o.iterationTime.bind IterationTime.millis? = some 0) .noIterationTime :=
  elim_rejectIf _ _

theorem check_cpuCores :
    o.check host .cpuCores =
      RunnerSettings.validateCores { cpuCores := o.cpuCores } host.cores := by
  unfold check said
  cases o.cpuCores <;> rfl

theorem check_jsonOutput :
    o.check host .jsonOutput =
      ReportSettings.validate { jsonOutput := o.jsonOutput } host.files := by
  unfold check said
  cases o.jsonOutput <;> rfl

/-- **To validate options is to check what they say of the early fields**, in the order of the full
check. -/
theorem validate_eq_forM :
    o.validate.mapError OptionError.invalid = Field.early.forM (o.check host) := by
  show _ = (do
    o.check host .divisorTypes
    o.check host .bufferSizes
    o.check host .operations
    o.check host .measurementIterations
    o.check host .trials
    pure ())
  rw [check_divisorTypes, check_bufferSizes, check_operations, check_measurementIterations,
    check_trials]
  show _ = (do
    rejectIf (0 ∈ o.bufferSizes) .zeroBufferSize
    rejectIf (o.measurementIterations = some 0) .noMeasurementIteration
    rejectIf (o.trials = some 0) .noTrial
    pure ())
  simp only [rejectIf_bind, decide_eq_true_eq, validate]
  split
  · rfl
  split
  · rfl
  split <;> rfl

end fields

/-! ### The check after the merge -/

/-- What options say of a field, and what stands below where they say nothing, is checked as what
they say if what stands below passes. -/
theorem check_get {field : Field} (hover : o.override base = .ok c)
    (hbase : field.check host (base.get field) = .ok ()) :
    field.check host (c.get field) = o.check host field := by
  obtain ⟨-, hfields⟩ := override_eq_ok_iff.mp hover
  rw [hfields field, check]
  cases o.said field with
  | none => exact hbase
  | some value => rfl

/-- **Over a valid configuration, the full check is that of the options**, followed by the check of
what they say of the late fields. -/
theorem validate_override (hover : o.override base = .ok c) (hbase : base.validate host = .ok ()) :
    c.validate host = (do
      o.validate.mapError OptionError.invalid
      Field.late.forM (o.check host)) := by
  have hcheck : (fun field : Field => field.check host (c.get field)) = o.check host :=
    funext fun field => check_get hover (Config.validate_eq_ok_iff_forall.mp hbase field)
  rw [Config.validate_eq_forM, hcheck, forM_append, ← validate_eq_forM]

/-- Options that are rejected by themselves make a configuration that is rejected, whatever they are
laid over. -/
theorem exists_error_of_early (hover : o.override base = .ok c) {early : OptionError}
    (h : o.validate = .error early) (host : Host) :
    ∃ error, c.validate host = .error error ∧ ∀ fault, error ≠ .faulted fault := by
  obtain ⟨-, hfields⟩ := override_eq_ok_iff.mp hover
  have hsaid : Field.early.forM (o.check host) = .error early.invalid := by
    rw [← validate_eq_forM, h]
    rfl
  obtain ⟨field, hfield, hfail⟩ := exists_of_forM_eq_error hsaid
  obtain ⟨value, hvalue, hfail⟩ := exists_said_of_check hfail
  have hget : field.check host (c.get field) = .error early.invalid := by
    rw [hfields field, hvalue]
    exact hfail
  rw [Config.validate_eq_forM, forM_append]
  cases hearly : Field.early.forM fun field => field.check host (c.get field) with
  | ok => cases (forM_eq_ok_iff.mp hearly field hfield).symm.trans hget
  | error error =>
    -- the field that is reported may come before the one the options are rejected for
    obtain ⟨first, hfirst, herror⟩ := exists_of_forM_eq_error hearly
    refine ⟨error, rfl, fun fault hfault => ?_⟩
    exact Field.check_ne_faulted hfirst _ fault (herror.trans (congrArg _ hfault))

/-! ### What only the full check sees -/

/-- **What is wrong with what options say of the late fields.** -/
inductive Brings (o : Options) (host : Host) : Config.Invalid → Prop where
  /-- The iteration time is zero. -/
  | time {text : String} {time : Duration} (given : o.iterationTime = some text)
      (reads : IterationTime.parse text = .ok time) (zero : time.nanos = 0) :
      Brings o host .noIterationTime
  /-- The cores are no core list. -/
  | unread {text : String} {cause : CoreList.Error} (given : o.cpuCores = some text)
      (unread : CoreList.parse text = .error cause) : Brings o host (.ofCores cause)
  /-- The machine lacks one of the cores. -/
  | missing {text : String} {cores : List Nat} {core : Nat} (given : o.cpuCores = some text)
      (reads : CoreList.parse text = .ok cores)
      (least : IsLeast (CoreList.Missing text host.cores) core) :
      Brings o host (.missingCore core host.cores)
  /-- The file of the report has no name. -/
  | noName (given : o.jsonOutput = some "") : Brings o host .emptyReportPath
  /-- It is a directory. -/
  | directory {path : String} (given : o.jsonOutput = some path) (named : path ≠ "")
      (isDirectory : host.files.isDirectory path = true) :
      Brings o host (.reportIsDirectory path)

/-- This is what the checks of the late fields find. -/
theorem brings_iff {error : Config.Invalid} :
    o.Brings host error ↔ ∃ field ∈ Field.late, o.check host field = .error error := by
  constructor
  · intro h
    cases h with
    | @time text time given reads zero =>
      refine ⟨.iterationMillis, by decide, ?_⟩
      rw [check_iterationMillis, rejectIf_eq_error_iff, decide_eq_true_eq, given, Option.bind_some,
        IterationTime.millis?_eq_zero_iff]
      exact ⟨⟨time, reads, zero⟩, rfl⟩
    | @unread text cause given unread =>
      refine ⟨.cpuCores, by decide, ?_⟩
      rw [check_cpuCores, RunnerSettings.validateCores_eq_error_iff]
      exact ⟨text, given, .inl ⟨cause, unread, rfl⟩⟩
    | @missing text cores core given reads least =>
      refine ⟨.cpuCores, by decide, ?_⟩
      rw [check_cpuCores, RunnerSettings.validateCores_eq_error_iff]
      exact ⟨text, given, .inr ⟨cores, core, reads, least, rfl⟩⟩
    | noName given =>
      refine ⟨.jsonOutput, by decide, ?_⟩
      rw [check_jsonOutput, ReportSettings.validate_eq_error_iff]
      exact ⟨"", given, .inl ⟨rfl, rfl⟩⟩
    | @directory path given named isDirectory =>
      refine ⟨.jsonOutput, by decide, ?_⟩
      rw [check_jsonOutput, ReportSettings.validate_eq_error_iff]
      exact ⟨path, given, .inr ⟨named, isDirectory, rfl⟩⟩
  · rintro ⟨field, hfield, herror⟩
    cases field with
    | iterationMillis =>
      rw [check_iterationMillis, rejectIf_eq_error_iff, decide_eq_true_eq,
        Option.bind_eq_some_iff] at herror
      obtain ⟨⟨text, given, hmillis⟩, rfl⟩ := herror
      obtain ⟨time, reads, zero⟩ := IterationTime.millis?_eq_zero_iff.mp hmillis
      exact .time given reads zero
    | cpuCores =>
      rw [check_cpuCores, RunnerSettings.validateCores_eq_error_iff] at herror
      obtain ⟨text, given, ⟨cause, unread, rfl⟩ | ⟨cores, core, reads, least, rfl⟩⟩ := herror
      · exact .unread given unread
      · exact .missing given reads least
    | jsonOutput =>
      rw [check_jsonOutput, ReportSettings.validate_eq_error_iff] at herror
      obtain ⟨path, given, ⟨rfl, rfl⟩ | ⟨named, isDirectory, rfl⟩⟩ := herror
      · exact .noName given
      · exact .directory given named isDirectory
    | _ => simp [Field.late] at hfield

/-- **Options are never rejected by one check and passed by the other.** What they are rejected for
by themselves, the configuration they make over any other is rejected for as well, or for something
that is looked at before; over a valid one it is exactly this. Options that pass by themselves make,
over a valid configuration, one that is rejected for what they say of an iteration time, of cores or
of the file of a report, and for nothing else; and it is valid where none of these is wrong. -/
theorem validate_agrees (hover : o.override base = .ok c) (host : Host) :
    (∀ early, o.validate = .error early →
        (∃ error, c.validate host = .error error ∧ ∀ fault, error ≠ .faulted fault) ∧
          (base.validate host = .ok () → c.validate host = .error early.invalid)) ∧
      (o.validate = .ok () → base.validate host = .ok () →
        (∀ error, c.validate host = .error error → o.Brings host error) ∧
          (c.validate host = .ok () ↔ ∀ error, ¬ o.Brings host error)) := by
  refine ⟨fun early hearly => ⟨exists_error_of_early hover hearly host, fun hbase => ?_⟩,
    fun hearly hbase => ?_⟩
  · rw [validate_override hover hbase, hearly]
    rfl
  · have hlate : c.validate host = Field.late.forM (o.check host) := by
      rw [validate_override hover hbase, hearly]
      rfl
    have hbrings (error : Config.Invalid) (h : c.validate host = .error error) :
        o.Brings host error :=
      brings_iff.mpr (exists_of_forM_eq_error (hlate.symm.trans h))
    refine ⟨hbrings, fun hok error h => ?_, fun hnone => ?_⟩
    · obtain ⟨field, hfield, herror⟩ := brings_iff.mp h
      cases (forM_eq_ok_iff.mp (hlate.symm.trans hok) field hfield).symm.trans herror
    · cases hrun : c.validate host with
      | ok => rfl
      | error error => exact absurd (hbrings error hrun) (hnone error)

/-- Of two options that are zero the buffer size is told by both checks, and an iteration time that
is zero by the full one. -/
theorem validate_agrees_of_zero :
    validate { bufferSizes := [4, 0], trials := some 0 } = .error .zeroBufferSize ∧
      override { bufferSizes := [4, 0], trials := some 0 } Config.default =
        .ok ⟨{ bufferSizes := [4, 0] }, { trials := 0 }, {}⟩ ∧
      Config.validate ⟨{ bufferSizes := [4, 0] }, { trials := 0 }, {}⟩
        ⟨2, ⟨fun _ => .error .notFound, fun _ => false, fun _ => .ok ()⟩⟩ =
          .error .zeroBufferSize ∧
      validate { iterationTime := some "0us", trials := some 2 } = .ok () ∧
      override { iterationTime := some "0us", trials := some 2 } Config.default =
        .ok ⟨{}, { iterationMillis := 0, trials := 2 }, {}⟩ ∧
      Config.validate ⟨{}, { iterationMillis := 0, trials := 2 }, {}⟩
        ⟨2, ⟨fun _ => .error .notFound, fun _ => false, fun _ => .ok ()⟩⟩ =
          .error .noIterationTime := by
  have hzero : override { bufferSizes := [4, 0], trials := some 0 } Config.default =
      .ok ⟨{ bufferSizes := [4, 0] }, { trials := 0 }, {}⟩ := rfl
  have htime : override { iterationTime := some "0us", trials := some 2 } Config.default =
      .ok ⟨{}, { iterationMillis := 0, trials := 2 }, {}⟩ := rfl
  have hread : IterationTime.parse "0us" = .ok (.ofNanos 0) := rfl
  obtain ⟨hrejected, -⟩ := validate_agrees hzero
    ⟨2, ⟨fun _ => .error .notFound, fun _ => false, fun _ => .ok ()⟩⟩
  obtain ⟨-, hpassed⟩ := validate_agrees htime
    ⟨2, ⟨fun _ => .error .notFound, fun _ => false, fun _ => .ok ()⟩⟩
  obtain ⟨hbrings, hvalid⟩ := hpassed rfl rfl
  refine ⟨rfl, hzero, (hrejected _ rfl).2 rfl, rfl, htime, ?_⟩
  cases hrun : Config.validate ⟨{}, { iterationMillis := 0, trials := 2 }, {}⟩
    ⟨2, ⟨fun _ => .error .notFound, fun _ => false, fun _ => .ok ()⟩⟩ with
  | ok => exact absurd (.time rfl hread rfl) (hvalid.mp hrun _)
  | error error =>
    cases hbrings error hrun with
    | time => rfl
    | unread given | missing given | noName given | directory given => cases given

end Options

end CommandLine

end DivisionBenchmark

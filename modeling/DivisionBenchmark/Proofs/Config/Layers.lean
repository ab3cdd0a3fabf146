import DivisionBenchmark.CommandLine.Overrides

/-!
# The layers of a configuration

What a command line says is laid over what stands below it, be it a file or what a run has that was
told nothing. A configuration has eleven fields (`DivisionBenchmark.Config.Field`), and options say
something of each of them or nothing (`DivisionBenchmark.CommandLine.Options.said`): a list says
something where it is not empty, a switch where it is on, and an iteration time says how many
milliseconds cover it.

The one equation everything here is read off is `Options.override_eq_ok_iff`: of each field, what is
said of it is kept, and otherwise what stands below. Two layers below that differ only where
something is said come to the same, and saying the same again changes nothing.

Main statement: `DivisionBenchmark.CommandLine.Options.override_layers`.
-/

namespace DivisionBenchmark

/-! ### Fields -/

/-- **A field of a configuration.** -/
inductive Config.Field where
  /-- The divisor types that are swept. -/
  | divisorTypes
  /-- The buffer sizes that are swept. -/
  | bufferSizes
  /-- The operations that are measured. -/
  | operations
  /-- The iterations before any is measured. -/
  | warmupIterations
  /-- The iterations that are measured. -/
  | measurementIterations
  /-- The milliseconds of an iteration. -/
  | iterationMillis
  /-- The trials of an operation. -/
  | trials
  /-- The cores trials are pinned to. -/
  | cpuCores
  /-- The file of the JSON report. -/
  | jsonOutput
  /-- Whether the JSON report is spread over lines. -/
  | prettyJson
  /-- Whether latency percentiles are shown. -/
  | showPercentiles
  deriving DecidableEq, Repr

namespace Config

/-- What a field holds. -/
def Field.Value : Field → Type
  | .divisorTypes => List DivisorType
  | .bufferSizes => List UInt64
  | .operations => List Operation
  | .warmupIterations | .measurementIterations | .iterationMillis | .trials => UInt64
  | .cpuCores | .jsonOutput => Option String
  | .prettyJson | .showPercentiles => Bool

/-- The value of a field. -/
def get (c : Config) : (field : Field) → field.Value
  | .divisorTypes => c.workload.divisorTypes
  | .bufferSizes => c.workload.bufferSizes
  | .operations => c.workload.operations
  | .warmupIterations => c.runner.warmupIterations
  | .measurementIterations => c.runner.measurementIterations
  | .iterationMillis => c.runner.iterationMillis
  | .trials => c.runner.trials
  | .cpuCores => c.runner.cpuCores
  | .jsonOutput => c.report.jsonOutput
  | .prettyJson => c.report.prettyJson
  | .showPercentiles => c.report.showPercentiles

/-- **A configuration is its fields.** -/
theorem eq_of_get {c c' : Config} (h : ∀ field, c.get field = c'.get field) : c = c' := by
  have hworkload : c.workload = c'.workload :=
    Workload.mk.injEq .. ▸ ⟨h .divisorTypes, h .bufferSizes, h .operations⟩
  have hrunner : c.runner = c'.runner :=
    RunnerSettings.mk.injEq .. ▸ ⟨h .warmupIterations, h .measurementIterations,
      h .iterationMillis, h .trials, h .cpuCores⟩
  have hreport : c.report = c'.report :=
    ReportSettings.mk.injEq .. ▸ ⟨h .jsonOutput, h .prettyJson, h .showPercentiles⟩
  exact Config.mk.injEq .. ▸ ⟨hworkload, hrunner, hreport⟩

end Config

/-! ### Iteration times in milliseconds -/

/-- A time that can be written has 64 bits of nanoseconds. -/
theorem IterationTime.nanos_lt_of_parse {text : String} {time : Duration}
    (h : parse text = .ok time) : time.nanos < Count.bound := by
  simp only [parse] at h
  split at h
  · cases h
  · split at h
    · obtain rfl := Except.ok.inj h
      rw [Duration.nanos_ofNanos]
      exact UInt64.toNat_lt _
    · cases h

/-- The milliseconds that cover the time a text stands for, if it stands for one. -/
def IterationTime.millis? (text : String) : Option UInt64 :=
  (parse text).toOption.map fun time => .ofNat ((time.nanos + 999999) / 1000000)

/-- The milliseconds of a time that can be read are those that cover it. -/
theorem IterationTime.ceilMillis_of_parse {text : String} {time : Duration}
    (h : parse text = .ok time) : ∃ millis, time.ceilMillis = .ok millis ∧
      millis? text = some millis := by
  refine ⟨_, Duration.ceilMillis_eq_ok (Duration.ceil_lt_bound (nanos_lt_of_parse h)), ?_⟩
  rw [millis?, h, Except.toOption, Option.map_some]

/-! ### Files -/

/-- A file is loaded without a fault, whatever is in it. -/
theorem Config.load_ne_faulted (files : Files) (path : String) (fault : Fault) :
    load files path ≠ .error (.faulted fault) := by
  unfold load
  cases files.read path with
  | error cause => nofun
  | ok text =>
    show (ofToml text).mapError (LoadError.undecodable path) ≠ _
    cases ofToml text <;> nofun

/-! ### What options say -/

namespace CommandLine.Options

open Config (Field)

variable {o : Options} {base c : Config}

/-- **What options say of a field**: nothing, or a value. -/
def said (o : Options) : (field : Field) → Option field.Value
  | .divisorTypes => if o.divisorTypes = [] then none else some o.divisorTypes
  | .bufferSizes => if o.bufferSizes = [] then none else some o.bufferSizes
  | .operations => if o.operations = [] then none else some o.operations
  | .warmupIterations => o.warmupIterations
  | .measurementIterations => o.measurementIterations
  | .iterationMillis => o.iterationTime.bind IterationTime.millis?
  | .trials => o.trials
  | .cpuCores => o.cpuCores.map some
  | .jsonOutput => o.jsonOutput.map some
  | .prettyJson => if o.compactJson then some false else none
  | .showPercentiles => if o.showPercentiles then some true else none

/-! ### Iteration times that can be read -/

/-- The iteration time of the options can be read, if there is one. -/
def Timely (o : Options) : Prop :=
  ∀ text, o.iterationTime = some text → ∃ time, IterationTime.parse text = .ok time

/-- Options whose iteration time cannot be read have one. -/
theorem timely_or_unread (o : Options) :
    o.Timely ∨
      ∃ text cause, o.iterationTime = some text ∧ IterationTime.parse text = .error cause := by
  cases htext : o.iterationTime with
  | none => exact .inl fun text h => nomatch htext.symm.trans h
  | some text =>
    cases hparse : IterationTime.parse text with
    | error cause => exact .inr ⟨text, cause, rfl, hparse⟩
    | ok time =>
      refine .inl fun text' h => ⟨time, ?_⟩
      obtain rfl := Option.some.inj (htext.symm.trans h)
      exact hparse

/-- An iteration time that can be read has a number of milliseconds. -/
theorem iterationMillis_of_timely (h : o.Timely) (below : UInt64) :
    o.iterationMillis below =
      .ok ((o.iterationTime.bind IterationTime.millis?).getD below) := by
  cases htext : o.iterationTime with
  | none => simp only [iterationMillis, htext, Option.bind_none, Option.getD_none]
  | some text =>
    obtain ⟨time, htime⟩ := h text htext
    obtain ⟨millis, hceil, hmillis⟩ := IterationTime.ceilMillis_of_parse htime
    simp only [iterationMillis, htext, htime, Option.bind_some, hmillis, Option.getD_some]
    refine bind_eq_ok_iff.mpr ⟨time, rfl, ?_⟩
    rw [hceil]
    rfl

/-- One that cannot be read has none, and what is wrong with it is told. -/
theorem iterationMillis_of_unread {text : String} {cause : IterationTime.Error}
    (htext : o.iterationTime = some text) (hparse : IterationTime.parse text = .error cause)
    (below : UInt64) : o.iterationMillis below = .error (.badIterationTime cause) := by
  simp only [iterationMillis, htext, hparse]
  rfl

/-! ### One layer over another -/

theorem listOr_eq_getD {α : Type} (list below : List α) :
    listOr list below = (if list = [] then none else some list).getD below := by
  cases list <;> rfl

theorem orElse_eq_getD {α : Type} (x below : Option α) :
    (x <|> below) = (x.map some).getD below := by
  cases x <;> rfl

/-- Options without a readable iteration time come to nothing. -/
theorem override_of_unread {text : String} {cause : IterationTime.Error}
    (htext : o.iterationTime = some text) (hparse : IterationTime.parse text = .error cause)
    (base : Config) : o.override base = .error (.badIterationTime cause) := by
  rw [override, iterationMillis_of_unread htext hparse]
  rfl

/-- Any others come to a configuration, whose fields are as the options say. -/
theorem exists_override_of_timely (h : o.Timely) (base : Config) :
    ∃ c, o.override base = .ok c ∧
      ∀ field, c.get field = (o.said field).getD (base.get field) := by
  refine ⟨_, by rw [override, iterationMillis_of_timely h]; rfl, fun field => ?_⟩
  cases field with
  | divisorTypes | bufferSizes | operations => exact listOr_eq_getD _ _
  | warmupIterations | measurementIterations | iterationMillis | trials => rfl
  | cpuCores | jsonOutput => exact orElse_eq_getD _ _
  | prettyJson =>
    show (base.report.prettyJson && !o.compactJson) =
      (if o.compactJson then some false else none).getD base.report.prettyJson
    cases o.compactJson <;> simp
  | showPercentiles =>
    show (base.report.showPercentiles || o.showPercentiles) =
      (if o.showPercentiles then some true else none).getD base.report.showPercentiles
    cases o.showPercentiles <;> simp

/-- **What options laid over a configuration come to**: of each field what is said of it, and
otherwise what stands below. -/
theorem override_eq_ok_iff :
    o.override base = .ok c ↔
      o.Timely ∧ ∀ field, c.get field = (o.said field).getD (base.get field) := by
  constructor
  · intro hover
    rcases o.timely_or_unread with h | ⟨text, cause, htext, hparse⟩
    · obtain ⟨c', hover', hfields⟩ := exists_override_of_timely h base
      obtain rfl := Except.ok.inj (hover.symm.trans hover')
      exact ⟨h, hfields⟩
    · cases hover.symm.trans (override_of_unread htext hparse base)
  · rintro ⟨h, hfields⟩
    obtain ⟨c', hover', hfields'⟩ := exists_override_of_timely h base
    rw [hover', Config.eq_of_get fun field => (hfields' field).trans (hfields field).symm]

/-- They come to nothing only where the iteration time cannot be read. -/
theorem override_eq_error_iff {error : Config.LoadError} :
    o.override base = .error error ↔
      ∃ text cause, o.iterationTime = some text ∧ IterationTime.parse text = .error cause ∧
        error = .badIterationTime cause := by
  constructor
  · intro hover
    rcases o.timely_or_unread with h | ⟨text, cause, htext, hparse⟩
    · obtain ⟨c, hover', -⟩ := exists_override_of_timely h base
      cases hover.symm.trans hover'
    · have hfail := override_of_unread htext hparse base
      exact ⟨text, cause, htext, hparse, Except.error.inj (hover.symm.trans hfail)⟩
  · rintro ⟨text, cause, htext, hparse, rfl⟩
    exact override_of_unread htext hparse base

/-- Only what is left unsaid is taken from below. -/
theorem override_congr {base' : Config}
    (h : ∀ field, o.said field = none → base.get field = base'.get field) :
    o.override base = o.override base' := by
  rcases o.timely_or_unread with htimely | ⟨text, cause, htext, hparse⟩
  · obtain ⟨c, hover, hfields⟩ := exists_override_of_timely htimely base
    rw [hover, eq_comm, override_eq_ok_iff]
    refine ⟨htimely, fun field => ?_⟩
    rw [hfields field]
    cases hsaid : o.said field with
    | none => exact h field hsaid
    | some value => rfl
  · rw [override_of_unread htext hparse, override_of_unread htext hparse]

/-- Saying the same again changes nothing. -/
theorem override_idem (h : o.override base = .ok c) : o.override c = .ok c := by
  obtain ⟨htimely, hfields⟩ := override_eq_ok_iff.mp h
  refine override_eq_ok_iff.mpr ⟨htimely, fun field => ?_⟩
  cases hsaid : o.said field with
  | none => rfl
  | some value => rw [hfields field, hsaid]; rfl

/-! ### The three layers -/

/-- Without a file, options lie over the configuration of a run that was told nothing. -/
theorem effective_of_no_file (h : o.config = none) (files : Files) :
    o.effective files = o.override Config.default := by
  rw [effective, Options.base, h]
  rfl

theorem base_of_file {path : String} (hpath : o.config = some path) (files : Files) :
    o.base files = Config.load files path := by
  rw [Options.base, hpath]

/-- With one, they lie over its configuration. -/
theorem effective_of_file {path : String} {files : Files} (hpath : o.config = some path)
    (h : Config.load files path = .ok base) : o.effective files = o.override base := by
  rw [effective, base_of_file hpath, h]
  rfl

/-- A file that cannot be loaded is what is wrong, whatever else the options say. -/
theorem effective_of_file_error {path : String} {files : Files} {error : Config.LoadError}
    (hpath : o.config = some path) (h : Config.load files path = .error error) :
    o.effective files = .error error := by
  rw [effective, base_of_file hpath, h]
  rfl

/-- No configuration has a fault on the way to it. -/
theorem effective_ne_faulted (o : Options) (files : Files) (fault : Fault) :
    o.effective files ≠ .error (.faulted fault) := by
  have hover (base : Config) : o.override base ≠ .error (.faulted fault) := by
    intro h
    obtain ⟨text, cause, -, -, hfault⟩ := override_eq_error_iff.mp h
    cases hfault
  cases hpath : o.config with
  | none => exact effective_of_no_file hpath files ▸ hover _
  | some path =>
    cases hload : Config.load files path with
    | ok base => exact effective_of_file hpath hload ▸ hover base
    | error error =>
      rw [effective_of_file_error hpath hload]
      intro h
      obtain rfl := Except.error.inj h
      exact Config.load_ne_faulted files path fault hload

/-- **The command line over the file over the defaults.** Options come to a configuration unless
their iteration time cannot be read, and then it is this that is told. Every field of the
configuration is what the options say of it, and what stands below where they say nothing. So it is
the same for two configurations below that agree where nothing is said, and the options change
nothing in what they come to. What stands below is the configuration of the file they name, or that
of a run that was told nothing, and a file that cannot be loaded is reported whatever they say. -/
theorem override_layers (o : Options) (base : Config) (files : Files) :
    (∀ error, o.override base = .error error ↔
        ∃ text cause, o.iterationTime = some text ∧ IterationTime.parse text = .error cause ∧
          error = .badIterationTime cause) ∧
      (∀ c, o.override base = .ok c ↔
        o.Timely ∧ ∀ field, c.get field = (o.said field).getD (base.get field)) ∧
      (∀ base', (∀ field, o.said field = none → base.get field = base'.get field) →
        o.override base = o.override base') ∧
      (∀ c, o.override base = .ok c → o.override c = .ok c) ∧
      (o.config = none → o.effective files = o.override Config.default) ∧
      ∀ path, o.config = some path →
        (Config.load files path = .ok base → o.effective files = o.override base) ∧
          ∀ error, Config.load files path = .error error → o.effective files = .error error :=
  ⟨fun _ => override_eq_error_iff, fun _ => override_eq_ok_iff, fun _ => override_congr,
    fun _ => override_idem, fun h => effective_of_no_file h files, fun _ hpath =>
      ⟨effective_of_file hpath, fun _ => effective_of_file_error hpath⟩⟩

/-- More than one millisecond is two, over whatever iteration time stands below; and an unknown unit
is told. -/
theorem override_layers_of_time :
    override { bufferSizes := [8], iterationTime := some "1201us", compactJson := true }
          ⟨{ bufferSizes := [1, 2] }, { iterationMillis := 7 }, {}⟩ =
        .ok ⟨{ bufferSizes := [8] }, { iterationMillis := 2 }, { prettyJson := false }⟩ ∧
      override { bufferSizes := [8], iterationTime := some "1201m" } {} =
        .error (.badIterationTime (.malformed "1201m" .invalidDigit)) := by
  obtain ⟨-, hok, hbelow, -⟩ := override_layers
    { bufferSizes := [8], iterationTime := some "1201us", compactJson := true } {}
    ⟨fun _ => .error .notFound, fun _ => false, fun _ => .ok ()⟩
  obtain ⟨herror, -⟩ := override_layers { bufferSizes := [8], iterationTime := some "1201m" } {}
    ⟨fun _ => .error .notFound, fun _ => false, fun _ => .ok ()⟩
  have htime : IterationTime.parse "1201us" = .ok (.ofNanos 1201000) := rfl
  have hfirst := (hok ⟨{ bufferSizes := [8] }, { iterationMillis := 2 },
    { prettyJson := false }⟩).mpr ⟨fun text h => ⟨_, Option.some.inj h ▸ htime⟩,
      fun field => by cases field <;> rfl⟩
  refine ⟨(hbelow _ fun field hsaid => ?_).symm.trans hfirst, (herror _).mpr ⟨_, _, rfl, rfl, rfl⟩⟩
  cases field with
  | bufferSizes | iterationMillis => cases hsaid
  | _ => rfl

end CommandLine.Options

end DivisionBenchmark

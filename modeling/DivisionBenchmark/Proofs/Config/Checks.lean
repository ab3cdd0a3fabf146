import DivisionBenchmark.Proofs.Config.Layers
import DivisionBenchmark.Proofs.Config.Pinning

/-!
# A configuration is checked field by field

Each field of a configuration has a check of its own (`DivisionBenchmark.Config.Field.check`), and
to validate a configuration is to check its fields one after the other
(`DivisionBenchmark.Config.validate_eq_forM`). So what is reported is said of one field, and the
fields before it pass.

The fields that are checked fall in two groups, one after the other. Those of the first
(`DivisionBenchmark.Config.Field.early`) can also be looked at in options that have not yet been
merged with anything; those of the second (`DivisionBenchmark.Config.Field.late`) are only looked at
in a whole configuration, on the machine that is to run it.
-/

namespace DivisionBenchmark

/-! ### Checks in a row -/

section forM

variable {α ε : Type} {f : α → Except ε Unit} {xs : List α} {error : ε}

theorem forM_cons_of_ok {x : α} (h : f x = .ok ()) : (x :: xs).forM f = xs.forM f := by
  show (f x >>= fun _ => xs.forM f) = _
  rw [h]
  rfl

theorem forM_cons_of_error {x : α} (h : f x = .error error) :
    (x :: xs).forM f = .error error := by
  show (f x >>= fun _ => xs.forM f) = _
  rw [h]
  rfl

/-- Checks in a row pass where each of them does. -/
theorem forM_eq_ok_iff : xs.forM f = .ok () ↔ ∀ x ∈ xs, f x = .ok () := by
  induction xs with
  | nil => exact iff_of_true rfl nofun
  | cons x xs ih =>
    rw [List.forall_mem_cons]
    cases hx : f x with
    | error error =>
      rw [forM_cons_of_error hx]
      exact iff_of_false nofun fun h => nomatch h.1
    | ok => rw [forM_cons_of_ok hx, ih, and_iff_right rfl]

/-- What they fail with is what one of them fails with. -/
theorem exists_of_forM_eq_error (h : xs.forM f = .error error) :
    ∃ x ∈ xs, f x = .error error := by
  induction xs with
  | nil => cases h
  | cons x xs ih =>
    cases hx : f x with
    | error error' =>
      rw [forM_cons_of_error hx] at h
      exact ⟨x, List.mem_cons_self, hx.trans h⟩
    | ok =>
      rw [forM_cons_of_ok hx] at h
      obtain ⟨y, hy, herror⟩ := ih h
      exact ⟨y, List.mem_cons_of_mem x hy, herror⟩

theorem forM_append (xs ys : List α) :
    (xs ++ ys).forM f = (do xs.forM f; ys.forM f) :=
  List.forM_append

end forM

/-! ### The check of a field -/

/-- What a report is rejected for: its file has no name, or is a directory. -/
theorem ReportSettings.validate_eq_error_iff {r : ReportSettings} {files : Files}
    {error : Config.Invalid} :
    r.validate files = .error error ↔ ∃ path, r.jsonOutput = some path ∧
      (path = "" ∧ error = .emptyReportPath ∨
        path ≠ "" ∧ files.isDirectory path = true ∧ error = .reportIsDirectory path) := by
  unfold validate
  cases r.jsonOutput with
  | none => simp
  | some path =>
    simp only [Option.some.injEq, exists_eq_left']
    by_cases hname : path = ""
    · rw [if_pos hname, Except.error.injEq, eq_comm]
      simp [hname]
    · rw [if_neg hname]
      by_cases hdirectory : files.isDirectory path = true
      · rw [if_pos hdirectory, Except.error.injEq, eq_comm]
        simp [hname, hdirectory]
      · rw [if_neg hdirectory]
        simp [hname, hdirectory]

namespace Config

/-- Rejects what is so. -/
def Invalid.rejectIf (wrong : Bool) (error : Invalid) : Except Invalid Unit :=
  if wrong then .error error else .ok ()

namespace Invalid

variable {wrong : Bool} {error error' : Invalid}

theorem rejectIf_bind {β : Type} (x : Except Invalid β) :
    (rejectIf wrong error >>= fun _ => x) = if wrong then .error error else x := by
  cases wrong <;> rfl

theorem rejectIf_eq_error_iff :
    rejectIf wrong error = .error error' ↔ wrong = true ∧ error' = error := by
  cases wrong <;> simp [rejectIf, eq_comm]

end Invalid

open Invalid (rejectIf rejectIf_bind rejectIf_eq_error_iff)

/-- **The check of a field**, on a machine. -/
def Field.check (host : Host) : (field : Field) → field.Value → Except Invalid Unit
  | .divisorTypes, (kinds : List DivisorType) => rejectIf kinds.isEmpty .noDivisorType
  | .bufferSizes, (sizes : List UInt64) => do
    rejectIf sizes.isEmpty .noBufferSize
    rejectIf (0 ∈ sizes) .zeroBufferSize
  | .operations, (measured : List Operation) => rejectIf measured.isEmpty .noOperation
  | .measurementIterations, (n : UInt64) => rejectIf (n = 0) .noMeasurementIteration
  | .trials, (n : UInt64) => rejectIf (n = 0) .noTrial
  | .iterationMillis, (millis : UInt64) => rejectIf (millis = 0) .noIterationTime
  | .cpuCores, (cores : Option String) =>
    RunnerSettings.validateCores { cpuCores := cores } host.cores
  | .jsonOutput, (path : Option String) => ReportSettings.validate { jsonOutput := path } host.files
  | .warmupIterations, _ | .prettyJson, _ | .showPercentiles, _ => .ok ()

/-- The fields that are checked first, in their order. -/
def Field.early : List Field :=
  [.divisorTypes, .bufferSizes, .operations, .measurementIterations, .trials]

/-- The fields that are checked after these. -/
def Field.late : List Field := [.iterationMillis, .cpuCores, .jsonOutput]

variable {host : Host}

/-- No check of the first fields has a fault. -/
theorem Field.check_ne_faulted {field : Field} (h : field ∈ early) (value : field.Value)
    (fault : Fault) : field.check host value ≠ .error (.faulted fault) := by
  intro hfault
  cases field with
  | divisorTypes | operations | measurementIterations | trials =>
    cases (rejectIf_eq_error_iff.mp hfault).2
  | bufferSizes =>
    replace hfault := (rejectIf_bind _).symm.trans hfault
    split at hfault
    · cases hfault
    · cases (rejectIf_eq_error_iff.mp hfault).2
  | _ => simp [early] at h

/-- The fields of a workload, in the order of their checks. -/
theorem validate_workload (c : Config) (host : Host) :
    c.workload.validate = (do
      Field.check host .divisorTypes (c.get .divisorTypes)
      Field.check host .bufferSizes (c.get .bufferSizes)
      Field.check host .operations (c.get .operations)) := by
  show c.workload.validate = (do
    rejectIf c.workload.divisorTypes.isEmpty .noDivisorType
    (do
      rejectIf c.workload.bufferSizes.isEmpty .noBufferSize
      rejectIf (0 ∈ c.workload.bufferSizes) .zeroBufferSize)
    rejectIf c.workload.operations.isEmpty .noOperation)
  rw [bind_assoc]
  simp only [rejectIf_bind, decide_eq_true_eq]
  rfl

/-- The fields of a runner. -/
theorem validate_runner (c : Config) (host : Host) :
    c.runner.validate host.cores = (do
      Field.check host .measurementIterations (c.get .measurementIterations)
      Field.check host .trials (c.get .trials)
      Field.check host .iterationMillis (c.get .iterationMillis)
      Field.check host .cpuCores (c.get .cpuCores)) := by
  show c.runner.validate host.cores = (do
    rejectIf (c.runner.measurementIterations = 0) .noMeasurementIteration
    rejectIf (c.runner.trials = 0) .noTrial
    rejectIf (c.runner.iterationMillis = 0) .noIterationTime
    c.runner.validateCores host.cores)
  simp only [rejectIf_bind, decide_eq_true_eq]
  rfl

/-- **To validate a configuration is to check its fields**, one after the other. -/
theorem validate_eq_forM (c : Config) (host : Host) :
    c.validate host =
      (Field.early ++ Field.late).forM fun field => field.check host (c.get field) := by
  show (do c.workload.validate; c.runner.validate host.cores; c.report.validate host.files) = _
  rw [validate_workload c host, validate_runner,
    ← bind_pure_unit (x := c.report.validate host.files)]
  simp only [bind_assoc]
  rfl

/-- **A configuration is valid where each of its fields passes.** -/
theorem validate_eq_ok_iff_forall {c : Config} :
    c.validate host = .ok () ↔ ∀ field : Field, field.check host (c.get field) = .ok () := by
  rw [validate_eq_forM, forM_eq_ok_iff]
  refine ⟨fun h field => ?_, fun h field _ => h field⟩
  cases field with
  | warmupIterations | prettyJson | showPercentiles => rfl
  | _ => exact h _ (by decide)

end Config

end DivisionBenchmark

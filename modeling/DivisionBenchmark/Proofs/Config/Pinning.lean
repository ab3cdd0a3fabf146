import DivisionBenchmark.Config.Validity
import DivisionBenchmark.Measurement.Runner
import DivisionBenchmark.Proofs.Machine.CoreSearch

/-!
# Pinning to cores

The cores to pin to are looked at twice: the settings are checked against the cores of the machine,
and then the runner reads the same text again. Both see a set. The check reads the text and searches
its cores from the least one on (`DivisionBenchmark.RunnerSettings.validateCores_of_text`), so the
core that it finds missing is the least one missing, and its verdict depends on the cores that the
text denotes and on nothing else.

Main statement: `DivisionBenchmark.RunnerSettings.validate_pins_set`.
-/

namespace DivisionBenchmark

/-- What is wrong with a configuration whose cores are no core list. -/
def Config.Invalid.ofCores : CoreList.Error → Config.Invalid
  | .faulted fault => .faulted fault
  | cause => .badCores cause

/-- **The cores that a text denotes and a machine does not have.** -/
def CoreList.Missing (text : String) (available : Nat) : Set Nat :=
  {core | Denotes text core ∧ available ≤ core}

theorem CoreList.missing_eq_of_parse {text : String} {cores : List Nat}
    (h : parse text = .ok cores) (available : Nat) :
    Missing text available = {core | core ∈ cores ∧ available ≤ core} := by
  simp only [Missing, mem_iff_of_parse h]

namespace RunnerSettings

variable {r : RunnerSettings} {text : String} {available : Nat} {cores : List Nat}

/-! ### The check of the cores -/

/-- Where no cores are named, there is nothing to check. -/
theorem validateCores_of_none (h : r.cpuCores = none) : r.validateCores available = .ok () := by
  rw [validateCores, h]

/-- **Cores that are named are read, and searched from the least one on.** -/
theorem validateCores_of_text (h : r.cpuCores = some text) :
    r.validateCores available =
      ((CoreList.parse text).mapError Config.Invalid.ofCores >>= fun cores =>
        match cores.find? (available ≤ ·) with
        | some core => .error (.missingCore core available)
        | none => .ok ()) := by
  simp only [validateCores, h, CoreList.parse]
  cases CoreList.read text with
  | error cause => cases cause <;> rfl
  | ok rows =>
    simp only [CoreList.leastFrom?_eq_find?]
    rfl

/-- Text that is no core list is rejected for what is wrong with it. -/
theorem validateCores_of_unread {cause : CoreList.Error} (h : r.cpuCores = some text)
    (hparse : CoreList.parse text = .error cause) :
    r.validateCores available = .error (.ofCores cause) := by
  rw [validateCores_of_text h, hparse]
  rfl

/-- Of the cores a machine does not have, the least is reported. -/
theorem validateCores_of_missing {core : Nat} (h : r.cpuCores = some text)
    (hparse : CoreList.parse text = .ok cores)
    (hleast : IsLeast (CoreList.Missing text available) core) :
    r.validateCores available = .error (.missingCore core available) := by
  rw [CoreList.missing_eq_of_parse hparse,
    ← CoreList.find?_eq_some_iff (CoreList.pairwise_of_parse hparse)] at hleast
  rw [validateCores_of_text h, hparse]
  show (match cores.find? (available ≤ ·) with | some _ => _ | none => _) = _
  rw [hleast]

/-- A machine has all cores that are read, or there is a least one it does not have. -/
theorem present_or_isLeast (hparse : CoreList.parse text = .ok cores) (available : Nat) :
    (∀ core ∈ cores, core < available) ∨
      ∃ core, IsLeast (CoreList.Missing text available) core := by
  cases hfind : cores.find? (available ≤ ·) with
  | none => exact .inl (CoreList.find?_eq_none_iff.mp hfind)
  | some core =>
    rw [CoreList.missing_eq_of_parse hparse]
    exact .inr ⟨core, CoreList.isLeast_of_find? (CoreList.pairwise_of_parse hparse) hfind⟩

/-- **What cores are rejected for**: they are no core list, or the machine lacks one of them. -/
theorem validateCores_eq_error_iff {error : Config.Invalid} :
    r.validateCores available = .error error ↔ ∃ text, r.cpuCores = some text ∧
      ((∃ cause, CoreList.parse text = .error cause ∧ error = .ofCores cause) ∨
        ∃ cores core, CoreList.parse text = .ok cores ∧
          IsLeast (CoreList.Missing text available) core ∧
            error = .missingCore core available) := by
  constructor
  · intro hfail
    cases htext : r.cpuCores with
    | none => cases (validateCores_of_none htext).symm.trans hfail
    | some text =>
      refine ⟨text, rfl, ?_⟩
      cases hparse : CoreList.parse text with
      | error cause =>
        have hcause := (validateCores_of_unread htext hparse).symm.trans hfail
        exact .inl ⟨cause, rfl, (Except.error.inj hcause).symm⟩
      | ok cores =>
        rcases present_or_isLeast hparse available with hall | ⟨core, hleast⟩
        · have hok : r.validateCores available = .ok () := by
            refine validateCores_eq_ok_iff.mpr fun text' htext' => ?_
            obtain rfl := Option.some.inj (htext.symm.trans htext')
            exact ⟨cores, hparse, hall⟩
          cases hok.symm.trans hfail
        · have hcore := (validateCores_of_missing htext hparse hleast).symm.trans hfail
          exact .inr ⟨cores, core, rfl, hleast, (Except.error.inj hcore).symm⟩
  · rintro ⟨text, htext, ⟨cause, hparse, rfl⟩ | ⟨cores, core, hparse, hleast, rfl⟩⟩
    · exact validateCores_of_unread htext hparse
    · exact validateCores_of_missing htext hparse hleast

/-- Cores that are named pass where they are a core list, and the machine has all that it
denotes. -/
theorem validateCores_of_text_eq_ok_iff (h : r.cpuCores = some text) :
    r.validateCores available = .ok () ↔
      (∃ cores, CoreList.parse text = .ok cores) ∧
        ∀ core, CoreList.Denotes text core → core < available := by
  rw [validateCores_eq_ok_iff]
  simp only [h, Option.some.injEq, forall_eq']
  constructor
  · rintro ⟨cores, hparse, hall⟩
    exact ⟨⟨cores, hparse⟩, fun core hcore =>
      hall core ((CoreList.mem_iff_of_parse hparse core).mpr hcore)⟩
  · rintro ⟨⟨cores, hparse⟩, hall⟩
    exact ⟨cores, hparse, fun core hcore =>
      hall core ((CoreList.mem_iff_of_parse hparse core).mp hcore)⟩

/-! ### Settings with cores -/

/-- Where nothing else is wrong with settings, their cores decide. -/
theorem validate_eq_validateCores
    (h : ({ r with cpuCores := none } : RunnerSettings).validate available = .ok ()) :
    r.validate available = r.validateCores available := by
  obtain ⟨hmeasurement, htrials, htime, -⟩ := validate_eq_ok_iff.mp h
  rw [validate, if_neg hmeasurement, if_neg htrials, if_neg htime]

/-- **Cores to pin to are looked at as the set they stand for.** Where nothing else is wrong with
settings, they pass exactly if their text is a core list, and the machine has all cores it denotes.
If the machine lacks one, the least that it lacks is reported, in whatever order and however often
the text names it. Settings that pass have a runner, and this has the cores that the text denotes,
ascending, all of them cores of the machine. -/
theorem validate_pins_set
    (hothers : ({ r with cpuCores := none } : RunnerSettings).validate available = .ok ())
    (htext : r.cpuCores = some text) :
    (r.validate available = .ok () ↔
        (∃ cores, CoreList.parse text = .ok cores) ∧
          ∀ core, CoreList.Denotes text core → core < available) ∧
      (∀ cores, CoreList.parse text = .ok cores →
        ∀ core, CoreList.Denotes text core → available ≤ core →
          ∃ least, IsLeast (CoreList.Missing text available) least ∧
            r.validate available = .error (.missingCore least available)) ∧
      (r.validate available = .ok () →
        ∃ runner cores, Runner.ofSettings r = .ok runner ∧ runner.cores = some cores ∧
          cores.Pairwise (· < ·) ∧ (∀ core, core ∈ cores ↔ CoreList.Denotes text core) ∧
            ∀ core ∈ cores, core < available) := by
  rw [validate_eq_validateCores hothers]
  refine ⟨validateCores_of_text_eq_ok_iff htext, fun cores hparse core hcore hmissing => ?_,
    fun hok => ?_⟩
  · rcases present_or_isLeast hparse available with hall | ⟨least, hleast⟩
    · have hlt := hall core ((CoreList.mem_iff_of_parse hparse core).mpr hcore)
      exact absurd hmissing (Nat.not_le.mpr hlt)
    · exact ⟨least, hleast, validateCores_of_missing htext hparse hleast⟩
  · obtain ⟨⟨cores, hparse⟩, hall⟩ := (validateCores_of_text_eq_ok_iff htext).mp hok
    have hmem := CoreList.mem_iff_of_parse hparse
    exact ⟨_, cores, Runner.ofSettings_of_parse htext hparse, rfl,
      CoreList.pairwise_of_parse hparse, hmem, fun core hcore => hall core ((hmem core).mp hcore)⟩

/-- Overlapping ranges on machines of eight and of four cores. -/
theorem validate_pins_set_of_overlap :
    (∃ runner, Runner.ofSettings { cpuCores := some "5-7,0,3-6" } = .ok runner ∧
        runner.cores = some [0, 3, 4, 5, 6, 7]) ∧
      ({ cpuCores := some "5-7,0,3-6" } : RunnerSettings).validate 8 = .ok () ∧
      ({ cpuCores := some "5-7,0,3-6" } : RunnerSettings).validate 4 =
        .error (.missingCore 4 4) := by
  have hread : CoreList.read "5-7,0,3-6" = .ok [⟨5, 3⟩, ⟨0, 1⟩, ⟨3, 4⟩] := rfl
  have hparse : CoreList.parse "5-7,0,3-6" = .ok [0, 3, 4, 5, 6, 7] := by
    refine CoreList.parse_of_read hread (by decide) fun core => ?_
    simp only [List.mem_cons, List.not_mem_nil, or_false, exists_eq_or_imp, exists_eq_left]
    omega
  have hmem := CoreList.mem_iff_of_parse hparse
  have hothers (available : Nat) : ({} : RunnerSettings).validate available = .ok () := rfl
  obtain ⟨hok, -, hrunner⟩ :=
    validate_pins_set (r := { cpuCores := some "5-7,0,3-6" }) (hothers 8) rfl
  obtain ⟨-, hmissing, -⟩ :=
    validate_pins_set (r := { cpuCores := some "5-7,0,3-6" }) (hothers 4) rfl
  have hall : ∀ core ∈ [0, 3, 4, 5, 6, 7], core < 8 := by decide
  have hvalid := hok.mpr ⟨⟨_, hparse⟩, fun core hcore => hall core ((hmem core).mpr hcore)⟩
  obtain ⟨runner, cores, hof, hcores, hascending, hset, -⟩ := hrunner hvalid
  obtain rfl := hascending.eq_of_mem_iff (CoreList.pairwise_of_parse hparse) fun core =>
    (hset core).trans (hmem core).symm
  have hfour : CoreList.Denotes "5-7,0,3-6" 4 := (hmem 4).mp (by decide)
  obtain ⟨least, hleast, herror⟩ := hmissing _ hparse 4 hfour (Nat.le_refl 4)
  obtain rfl := hleast.unique ⟨⟨hfour, Nat.le_refl 4⟩, fun core hcore => hcore.2⟩
  exact ⟨⟨runner, hof, hcores⟩, hvalid, herror⟩

end RunnerSettings

end DivisionBenchmark

import DivisionBenchmark.Program
import DivisionBenchmark.Proofs.CommandLine.Switches
import DivisionBenchmark.Proofs.Config.Layers
import DivisionBenchmark.Proofs.Config.Soundness
import DivisionBenchmark.Proofs.Report.Estimate

/-!
# Dry runs

A run says nothing until its configuration is known to be valid, and then it says what it is going
to do. A dry run ends there. So what it says can be trusted: the run that is not dry says the same
first, and nothing it does afterwards can find fault with the configuration any more.

Both runs have the same command line, but for the argument of the switch, which one of them may
lack and the other may have (`DivisionBenchmark.Surroundings.dry`,
`DivisionBenchmark.Surroundings.plain`). No stage before the plan looks at the switch.

Main statement: `DivisionBenchmark.Program.run_dry`.
-/

namespace DivisionBenchmark

open CommandLine (Options Switch)

/-! ### Options and the switch -/

namespace CommandLine.Options

variable (o : Options) (on : Bool)

theorem validate_dryRun : (o.turn .dryRun on).validate = o.validate := rfl

theorem effective_dryRun (files : Files) :
    (o.turn .dryRun on).effective files = o.effective files := rfl

end CommandLine.Options

/-- **The same surroundings for a dry run.** -/
def Surroundings.dry (s : Surroundings) : Surroundings :=
  { s with arguments := s.arguments.insert Switch.dryRun.argument }

/-- **The same surroundings for a run that is not dry.** -/
def Surroundings.plain (s : Surroundings) : Surroundings :=
  { s with arguments := s.arguments.erase Switch.dryRun.argument }

namespace Program

variable {s : Surroundings} {options : Options} {host : Host} {config : Config} {plan : String}

/-! ### Runs that end before the plan -/

/-- **A refusal**: the status of an error, and nothing shown. -/
def Refuses (outcome : Outcome) : Prop := outcome.status = 1 ∧ outcome.output = ""

theorem refuses_failed (chain : List String) : Refuses (.failed "" chain) := ⟨rfl, rfl⟩

/-- Options that cannot be right are refused. -/
theorem settle_of_options_error {error : CommandLine.OptionError}
    (h : options.validate = .error error) :
    settle host options = .error (.failed "" [error.message]) := by
  rw [settle, h]

/-- So are options that come to no configuration. -/
theorem settle_of_effective_error {error : Config.LoadError}
    (h : options.effective host.files = .error error) :
    ∃ chain, settle host options = .error (.failed "" chain) := by
  cases hvalidate : options.validate with
  | error wrong => exact ⟨_, settle_of_options_error hvalidate⟩
  | ok _ =>
    simp only [settle, hvalidate, h]
    cases error with
    | faulted fault => exact absurd h (options.effective_ne_faulted host.files fault)
    | unreadable | undecodable | badIterationTime => exact ⟨_, rfl⟩

/-- So are those whose configuration is found to be invalid. -/
theorem settle_of_invalid {invalid : Config.Invalid}
    (hconfig : options.effective host.files = .ok config)
    (h : config.validate host = .error invalid) (hfault : ∀ fault, invalid ≠ .faulted fault) :
    ∃ chain, settle host options = .error (.failed "" chain) := by
  cases hvalidate : options.validate with
  | error wrong => exact ⟨_, settle_of_options_error hvalidate⟩
  | ok _ =>
    simp only [settle, hvalidate, hconfig, h]
    cases invalid with
    | faulted fault => exact absurd rfl (hfault fault)
    | _ => exact ⟨_, rfl⟩

/-- A configuration that cannot be looked at to its end is not refused, but nothing is shown. -/
theorem settle_of_faulted {fault : Fault} (hconfig : options.effective host.files = .ok config)
    (h : config.validate host = .error (.faulted fault)) :
    ∃ outcome, settle host options = .error outcome ∧ outcome.output = "" := by
  cases hvalidate : options.validate with
  | error wrong => exact ⟨_, settle_of_options_error hvalidate, rfl⟩
  | ok _ =>
    simp only [settle, hvalidate, hconfig, h]
    exact ⟨_, rfl, rfl⟩

/-! ### Runs that come to the plan -/

/-- A valid configuration is announced. -/
theorem settle_of_valid (hoptions : options.validate = .ok ())
    (hconfig : options.effective host.files = .ok config) (h : config.validate host = .ok ()) :
    settle host options = announce config options.dryRun := by
  simp only [settle, hoptions, hconfig, h]

/-- A dry run ends with the notice behind the plan. -/
theorem announce_dry (hplan : config.plan = .ok plan) :
    announce config true = .error (.success (introduction plan ++ dryRunNotice) none) := by
  simp only [announce, hplan, ↓reduceIte]

/-- A run that is not dry has a session behind the plan. -/
theorem announce_plain {runner : Runner} (hplan : config.plan = .ok plan)
    (hrunner : Runner.ofSettings config.runner = .ok runner) :
    announce config false = .ok ⟨config, runner, introduction plan ++ "\n"⟩ := by
  simp only [announce, hplan, hrunner, Bool.false_eq_true, ↓reduceIte]

/-- What was shown before the measurement stands in front of everything else. -/
theorem output_conclude (s : Surroundings) (session : Session)
    (measured : Except Failure (List Measurement)) :
    ∃ rest, (conclude s session measured).output = session.output ++ rest := by
  cases measured with
  | error failure =>
    cases failure with
    | rejected | faulted => exact ⟨"", String.append_empty.symm⟩
  | ok results =>
    refine ⟨"\n" ++ (deliver s.host.files s.timestamp session.config results).output, ?_⟩
    rw [← String.append_assoc]
    simp only [conclude]
    split <;> rfl

/-! ### Command lines with and without the switch -/

/-- **A run that proceeds to its configuration**: its command line can be read and asks for no list,
and what it is to log can be understood. -/
structure Proceeds (s : Surroundings) (options : Options) : Prop where
  /-- The command line sets the options. -/
  parse : CommandLine.parse s.logLevel s.arguments = .ok options
  /-- What is to be logged can be understood. -/
  logging : checkLogging s.sharedLogFilter
    (options.logLevel.getD CommandLine.defaultLogLevel) = .ok ()
  /-- No list is asked for. -/
  list : options.list = false

namespace Proceeds

theorem prepare_eq (h : Proceeds s options) : prepare s = settle s.host options := by
  simp only [prepare, h.parse, h.logging, h.list, Bool.false_eq_true, ↓reduceIte]

/-- The dry run proceeds as well. -/
theorem dry (h : Proceeds s options) : Proceeds s.dry (options.turn .dryRun true) :=
  ⟨CommandLine.parse_insert_argument h.parse, h.logging, h.list⟩

/-- So does the run that is not dry. -/
theorem plain (h : Proceeds s options) : Proceeds s.plain (options.turn .dryRun false) :=
  ⟨CommandLine.parse_erase_argument h.parse, h.logging, h.list⟩

end Proceeds

theorem run_of_error {outcome : Outcome} (h : prepare s = .error outcome) (clock : Nat → UInt64) :
    run s clock = outcome := by
  rw [run, h]

/-- **What a dry run says can be trusted.** A run that proceeds to its configuration is refused
without a word where its options cannot be right, where they come to no configuration, or where that
configuration is invalid. Otherwise there is a runner for the configuration, so that nothing is
found wrong with it any more; and where it has a plan, the dry run shows the first line, an empty
one, the plan and the notice, and the run that is not dry has a session to measure and shows the
same up to the plan, whatever the clock says. -/
theorem run_dry (hproceeds : Proceeds s options) (clock : Nat → UInt64) :
    (∀ error, options.validate = .error error → Refuses (run s clock)) ∧
      (∀ error, options.effective s.host.files = .error error → Refuses (run s clock)) ∧
      (∀ config invalid, options.effective s.host.files = .ok config →
        config.validate s.host = .error invalid →
          (run s clock).output = "" ∧
            ((∀ fault, invalid ≠ .faulted fault) → Refuses (run s clock))) ∧
      ∀ config, options.validate = .ok () → options.effective s.host.files = .ok config →
        config.validate s.host = .ok () →
          ∃ runner, Runner.ofSettings config.runner = .ok runner ∧
            ∀ plan, config.plan = .ok plan →
              run s.dry clock =
                  .success (bannerLine ++ "\n" ++ plan ++ dryRunNotice) none ∧
                prepare s.plain = .ok ⟨config, runner, bannerLine ++ "\n" ++ plan ++ "\n"⟩ ∧
                ∃ rest, (run s.plain clock).output = bannerLine ++ "\n" ++ plan ++ rest := by
  have hprepare := hproceeds.prepare_eq
  refine ⟨fun error h => ?_, fun error h => ?_, fun config invalid hconfig h => ?_,
    fun config hoptions hconfig h => ?_⟩
  · rw [run_of_error (hprepare.trans (settle_of_options_error h))]
    exact refuses_failed _
  · obtain ⟨chain, hchain⟩ := settle_of_effective_error h
    rw [run_of_error (hprepare.trans hchain)]
    exact refuses_failed _
  · by_cases hfault : ∃ fault, invalid = .faulted fault
    · obtain ⟨fault, rfl⟩ := hfault
      obtain ⟨outcome, houtcome, hsilent⟩ := settle_of_faulted hconfig h
      rw [run_of_error (hprepare.trans houtcome)]
      exact ⟨hsilent, fun hne => absurd rfl (hne fault)⟩
    · have hne : ∀ fault, invalid ≠ .faulted fault := fun fault heq => hfault ⟨fault, heq⟩
      obtain ⟨chain, hchain⟩ := settle_of_invalid hconfig h hne
      rw [run_of_error (hprepare.trans hchain)]
      exact ⟨rfl, fun _ => refuses_failed _⟩
  · obtain ⟨runner, hrunner, -⟩ :=
      Runner.exists_ofSettings (Config.validate_eq_ok_iff.mp h).2.1
    refine ⟨runner, hrunner, fun plan hplan => ?_⟩
    have hsettle (on : Bool) : settle s.host (options.turn .dryRun on) = announce config on :=
      settle_of_valid ((options.validate_dryRun on).trans hoptions)
        ((options.effective_dryRun on s.host.files).trans hconfig) h
    have hdry := hproceeds.dry.prepare_eq.trans (hsettle true)
    have hplain := hproceeds.plain.prepare_eq.trans (hsettle false)
    have hsession := hplain.trans (announce_plain hplan hrunner)
    obtain ⟨rest, hrest⟩ := output_conclude s.plain _
      ((Session.measure ⟨config, runner, introduction plan ++ "\n"⟩ s.resultSize).run clock)
    refine ⟨run_of_error (hdry.trans (announce_dry hplan)) clock, hsession, "\n" ++ rest, ?_⟩
    rw [run, hsession]
    exact hrest.trans String.append_assoc

/-- A dry run over buffers of four pairs, the same run without the switch, and a run over buffers
without any. -/
theorem run_dry_of_four :
    let host : Host := ⟨1, ⟨fun _ => .error .notFound, fun _ => false, fun _ => .ok ()⟩⟩
    (∃ plan rest,
        run ⟨["-b", "4", "--dry-run", "-t", "1"], none, none, host, "", 160⟩ (fun _ => 0) =
            .success (bannerLine ++ "\n" ++ plan ++ dryRunNotice) none ∧
          (run ⟨["-b", "4", "-t", "1"], none, none, host, "", 160⟩ fun _ => 0).output =
            bannerLine ++ "\n" ++ plan ++ rest) ∧
      Refuses (run ⟨["-b", "0"], none, none, host, "", 160⟩ fun _ => 0) := by
  intro host
  have hparse : CommandLine.parse none ["-b", "4", "--dry-run", "-t", "1"] =
      .ok { bufferSizes := [4], trials := some 1, dryRun := true } := rfl
  have hzero : CommandLine.parse none ["-b", "0"] = .ok { bufferSizes := [0] } := rfl
  have hlogging : checkLogging none CommandLine.defaultLogLevel = .ok () := rfl
  have hconfig : Options.effective { bufferSizes := [4], trials := some 1, dryRun := true }
      host.files = .ok ⟨{ bufferSizes := [4] }, { trials := 1 }, {}⟩ := rfl
  have hestimate : Config.estimate ⟨{ bufferSizes := [4] }, { trials := 1 }, {}⟩ =
      .ok (.ofMillis 210000) := rfl
  have hplan := Config.plan_eq_ok_iff.mpr ⟨_, hestimate, rfl⟩
  have hproceeds : Proceeds ⟨["-b", "4", "--dry-run", "-t", "1"], none, none, host, "", 160⟩
      { bufferSizes := [4], trials := some 1, dryRun := true } := ⟨hparse, hlogging, rfl⟩
  obtain ⟨-, -, -, hvalid⟩ := run_dry hproceeds fun _ => 0
  obtain ⟨runner, -, hplans⟩ := hvalid _ rfl hconfig rfl
  obtain ⟨hdry, -, rest, hrest⟩ := hplans _ hplan
  have hzeroProceeds : Proceeds ⟨["-b", "0"], none, none, host, "", 160⟩ { bufferSizes := [0] } :=
    ⟨hzero, hlogging, rfl⟩
  obtain ⟨hrefuses, -⟩ := run_dry hzeroProceeds fun _ => 0
  exact ⟨⟨_, rest, hdry, hrest⟩, hrefuses .zeroBufferSize rfl⟩

end Program

end DivisionBenchmark

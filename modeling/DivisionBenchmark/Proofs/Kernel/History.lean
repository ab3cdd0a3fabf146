import DivisionBenchmark.Proofs.Kernel.Outcome
import DivisionBenchmark.Proofs.Operand.Generation

/-!
# Histories of sweeps

Sweeps that follow one another over the buffers of one trial, asked for as operations or by name. A
history leaves no trace but the last results of each kind: the quotients are those of the last
operation that writes quotients, as if it had been run alone, and so are the remainders.

The reason is that a sweep looks only at operands and at lengths, and changes neither. So all the
buffers of a history are `DivisionBenchmark.Buffers.Alike`, and alike buffers make an operation
write the same words.

Main definitions:

* `DivisionBenchmark.Step`, `DivisionBenchmark.Step.run`: a step of a history, and what it answers;
* `DivisionBenchmark.play`: the buffers after a history;
* `DivisionBenchmark.lastWriting`: the last operation of a history that writes a kind of result.

Main statement: `DivisionBenchmark.play_setup`.
-/

namespace DivisionBenchmark

/-- **A step of a history.** -/
inductive Step where
  /-- An operation is run. -/
  | asked (operation : Operation)
  /-- The operation a text names is run, if it names one. -/
  | named (text : String)
  deriving DecidableEq, Repr

/-- The operation that is run in a step, if one is. -/
def Step.operation? : Step → Option Operation
  | .asked operation => some operation
  | .named text => (Operation.ofText text).toOption

/-- What a step answers. -/
def Step.run : Step → Buffers → Except Failure Buffers
  | .asked operation, b => (operation.run b).mapError .faulted
  | .named text, b => Operation.runNamed text b

/-- **The buffers after a history.** A step that is rejected leaves them as they are; a fault ends
the history. -/
def play : List Step → Buffers → Except Fault Buffers
  | [], b => .ok b
  | step :: steps, b =>
    match step.run b with
    | .ok b => play steps b
    | .error (.rejected _) => play steps b
    | .error (.faulted fault) => .error fault

/-- The last operation of a history that writes results of a kind, if there is one. -/
def lastWriting (writes : Operation → Bool) (steps : List Step) : Option Operation :=
  ((steps.filterMap Step.operation?).filter writes).getLast?

/-! ### Buffers that operations cannot tell apart -/

namespace Buffers

/-- **Buffers with the same operands and the same lengths**, all of them one. -/
structure Alike (size : Nat) (b₀ b : Buffers) : Prop where
  /-- The dividends are the same. -/
  dividends : b.dividends = b₀.dividends
  /-- The divisors are the same. -/
  divisors : b.divisors = b₀.divisors
  /-- The buffers have one length. -/
  level : b.Level size

theorem Level.alike {size : Nat} {b : Buffers} (h : b.Level size) : Alike size b b := ⟨rfl, rfl, h⟩

end Buffers

namespace Operation

variable {size : Nat} {b₀ b : Buffers} {operation : Operation}

/-- Over buffers of one length, that length is the bound. -/
theorem bound_of_level (h : b.Level size) : operation.bound b = size := by
  cases operation <;>
    simp only [bound, h.dividends, h.divisors, h.quotients, h.remainders, Nat.min_self]

/-- Alike buffers make an operation walk the same pairs. -/
theorem walked_of_alike (h : Buffers.Alike size b₀ b) (h₀ : b₀.Level size) :
    operation.walked b = operation.walked b₀ := by
  rw [walked, walked, bound_of_level h.level, bound_of_level h₀]
  cases operation <;> simp only [operands, h.dividends, h.divisors]

/-- **Alike buffers make an operation write the same results**, whatever was there before. -/
theorem written_of_alike {writes : Bool} {f : Int64 × Int64 → Int64} {out out₀ : List Int64}
    (h : Buffers.Alike size b₀ b) (h₀ : b₀.Level size) (hout : out.length = size)
    (hout₀ : out₀.length = size) (hw : writes = true) :
    operation.written b writes f out = operation.written b₀ writes f out₀ := by
  have hlen : ((operation.walked b₀).map f).length = size := by
    rw [List.length_map, length_walked, bound_of_level h₀]
  rw [written, written, if_pos hw, if_pos hw, walked_of_alike h h₀, Sweep.overwrite,
    Sweep.overwrite, hlen, List.drop_of_length_le (by omega), List.drop_of_length_le (by omega)]

/-- A sweep leaves buffers alike. -/
theorem swept_alike (h : Buffers.Alike size b₀ b) : Buffers.Alike size b₀ (operation.swept b) where
  dividends := h.dividends
  divisors := h.divisors
  level :=
    { dividends := h.level.dividends
      divisors := h.level.divisors
      quotients := (swept_sameLengths operation b).quotients.trans h.level.quotients
      remainders := (swept_sameLengths operation b).remainders.trans h.level.remainders }

/-- Without a zero among the divisors, no sweep meets one. -/
theorem not_meetsZero (h : 0 ∉ b.divisors) : ¬operation.MeetsZero b := by
  rintro ⟨-, i, -, hzero⟩
  exact h (List.mem_of_getElem? hzero)

end Operation

/-! ### Playing a history -/

section playing

variable {size : Nat} {b₀ b : Buffers} {steps : List Step}

/-- What a step does: it sweeps, or it is rejected. -/
theorem Step.run_eq (step : Step) (h : 0 ∉ b.divisors) :
    (∃ operation, step.operation? = some operation ∧ step.run b = .ok (operation.swept b)) ∨
      ∃ error, step.operation? = none ∧ step.run b = .error (.rejected error) := by
  have hrun : ∀ operation : Operation,
      (operation.run b).mapError Failure.faulted = .ok (operation.swept b) := fun operation => by
    rw [Operation.run_eq_ok (Operation.not_meetsZero h)]
    rfl
  cases step with
  | asked operation => exact Or.inl ⟨operation, rfl, hrun operation⟩
  | named text =>
    cases hname : Operation.ofText text with
    | ok operation =>
      refine Or.inl ⟨operation, by rw [operation?, hname]; rfl, ?_⟩
      simp only [run, Operation.runNamed, hname]
      exact hrun operation
    | error error =>
      refine Or.inr ⟨error, by rw [operation?, hname]; rfl, ?_⟩
      simp only [run, Operation.runNamed, hname]

/-- **A history is the sweeps of its operations**, one after the other. -/
theorem play_eq_ok (h : 0 ∉ b.divisors) :
    play steps b =
      .ok ((steps.filterMap Step.operation?).foldl (fun b operation => operation.swept b) b) := by
  induction steps generalizing b with
  | nil => rfl
  | cons step steps ih =>
    rcases step.run_eq h with ⟨operation, hop, hrun⟩ | ⟨error, hop, hrun⟩
    · rw [play, hrun, List.filterMap_cons_some hop]
      exact ih h
    · rw [play, hrun, List.filterMap_cons_none hop]
      exact ih h

theorem foldl_alike (h : Buffers.Alike size b₀ b) (operations : List Operation) :
    Buffers.Alike size b₀ (operations.foldl (fun b operation => operation.swept b) b) := by
  induction operations generalizing b with
  | nil => exact h
  | cons operation operations ih => exact ih (Operation.swept_alike h)

/-- What a fold of sweeps leaves in a buffer of results, if one sweep leaves there what `result`
says or, where the operation writes no such results, what was there before: the last operation that
writes them decides. -/
theorem foldl_swept_eq {α : Type} (part : Buffers → α) {writes : Operation → Bool}
    {result : Operation → α}
    (hwrites : ∀ operation b, Buffers.Alike size b₀ b → writes operation = true →
      part (operation.swept b) = result operation)
    (hkeeps : ∀ operation b, writes operation = false → part (operation.swept b) = part b)
    (operations : List Operation) (h : Buffers.Alike size b₀ b) :
    part (operations.foldl (fun b operation => operation.swept b) b) =
      ((operations.filter writes).getLast?.map result).getD (part b) := by
  induction operations generalizing b with
  | nil => rfl
  | cons operation operations ih =>
    rw [List.foldl_cons, ih (Operation.swept_alike h)]
    cases hop : writes operation with
    | true =>
      rw [List.filter_cons_of_pos hop, List.getLast?_cons, hwrites operation b h hop]
      cases (operations.filter writes).getLast? <;> rfl
    | false => rw [List.filter_cons_of_neg (by simp [hop]), hkeeps operation b hop]

/-- A name that is rejected may be left out of a history. -/
theorem play_rejected {text : String} {error : BenchmarkError}
    (h : Operation.ofText text = .error error) (before after : List Step) (b : Buffers) :
    play (before ++ .named text :: after) b = play (before ++ after) b := by
  induction before generalizing b with
  | nil =>
    have hrun : (Step.named text).run b = .error (.rejected error) := by
      simp only [Step.run, Operation.runNamed, h]
    rw [List.nil_append, List.nil_append, play, hrun]
  | cons step before ih =>
    rw [List.cons_append, List.cons_append, play, play]
    cases step.run b with
    | ok b => exact ih b
    | error failure =>
      cases failure with
      | rejected error => exact ih b
      | faulted fault => rfl

end playing

/-- What the last operation that writes a kind of results leaves of them: the same as if it were run
once on fresh buffers. Where there is no such operation, they are zero. -/
def Left (size : Nat) (fresh : Buffers) (part : Buffers → List Int64) (words : List Int64) :
    Option Operation → Prop
  | some operation => ∃ once, operation.run fresh = .ok once ∧ words = part once
  | none => words = List.replicate size 0

/-- The last operation that writes a kind of results leaves them as if it had been run alone. -/
theorem left_getD {size : Nat} {fresh : Buffers} (hfresh : fresh.Fresh size)
    {part : Buffers → List Int64} (hzero : part fresh = List.replicate size 0)
    (last : Option Operation) :
    Left size fresh part
      ((last.map fun operation => part (operation.swept fresh)).getD (part fresh)) last := by
  cases last with
  | some operation =>
    exact ⟨_, Operation.run_eq_ok (Operation.not_meetsZero hfresh.divisors), rfl⟩
  | none => exact hzero

/-- **A history leaves no trace but the last results of each kind.** Whatever is run on the buffers
of a trial, in whatever order and however often, nothing faults, the operands and the lengths stay,
and each kind of results is that of the last operation that writes it. A name that is rejected
changes nothing. -/
theorem play_setup (trial : Trial) (hpos : trial.bufferSize ≠ 0)
    (hcap : trial.bufferSize.toNat < Count.capacity) (steps : List Step) :
    ∃ fresh final, Buffers.setup trial = .ok fresh ∧ play steps fresh = .ok final ∧
      final.dividends = fresh.dividends ∧ final.divisors = fresh.divisors ∧
      final.Level trial.bufferSize.toNat ∧
      Left trial.bufferSize.toNat fresh Buffers.quotients final.quotients
        (lastWriting Operation.writesQuotients steps) ∧
      Left trial.bufferSize.toNat fresh Buffers.remainders final.remainders
        (lastWriting Operation.writesRemainders steps) ∧
      ∀ text error, Operation.ofText text = .error error → ∀ before after,
        play (before ++ .named text :: after) fresh = play (before ++ after) fresh := by
  obtain ⟨fresh, hsetup, hfresh⟩ := Buffers.setup_eq_ok hpos hcap
  have halike := foldl_alike hfresh.level.alike (steps.filterMap Step.operation?)
  have hquotients := foldl_swept_eq Buffers.quotients
    (fun operation b h hw => Operation.written_of_alike h hfresh.level h.level.quotients
      hfresh.level.quotients hw)
    (fun operation b hw => Operation.written_of_not hw)
    (steps.filterMap Step.operation?) hfresh.level.alike
  have hremainders := foldl_swept_eq Buffers.remainders
    (fun operation b h hw => Operation.written_of_alike h hfresh.level h.level.remainders
      hfresh.level.remainders hw)
    (fun operation b hw => Operation.written_of_not hw)
    (steps.filterMap Step.operation?) hfresh.level.alike
  refine ⟨fresh, _, hsetup, play_eq_ok hfresh.divisors, halike.dividends, halike.divisors,
    halike.level, ?_, ?_, fun text error h before after => play_rejected h before after fresh⟩
  · rw [hquotients]
    exact left_getD hfresh hfresh.quotients _
  · rw [hremainders]
    exact left_getD hfresh hfresh.remainders _

/-- Both kinds of results are written over here, and one name is none. What is left are the
quotients of the low halves by seven, and the remainders of the words. -/
theorem play_setup_of_four :
    (⟨.mixed, 4⟩ : Trial).bufferSize ≠ 0 ∧
      (⟨.mixed, 4⟩ : Trial).bufferSize.toNat < Count.capacity ∧
      ∃ fresh final, Buffers.setup ⟨.mixed, 4⟩ = .ok fresh ∧
        play [.asked .remainderUnsigned, .named "test-divide_remainder_unsigned",
          .named "divideByZero", .asked .divideConstantBounded] fresh = .ok final ∧
        final.dividends = [5987356902031041503, 6633766593972829180, 9136120204379184874,
          -2633320696210193810] ∧
        final.divisors = [7051070477665621255, 211316841551650330, 379361710973160858,
          -2849859482894481063] ∧
        final.quotients = [175066692, -46488576, -193440076, 217401725] ∧
        final.remainders = [5987356902031041503, 82944505871668950, 31439141023324282,
          216538786684287253] := by
  obtain ⟨fresh, final, hsetup, hplay, hdividends, hdivisors, -, hquotients, hremainders, -⟩ :=
    play_setup ⟨.mixed, 4⟩ (by decide) (by decide)
      [.asked .remainderUnsigned, .named "test-divide_remainder_unsigned", .named "divideByZero",
        .asked .divideConstantBounded]
  have hdrawn : Buffers.setup ⟨.mixed, 4⟩ = .ok ⟨[5987356902031041503, 6633766593972829180,
      9136120204379184874, -2633320696210193810], [7051070477665621255, 211316841551650330,
      379361710973160858, -2849859482894481063], [0, 0, 0, 0], [0, 0, 0, 0]⟩ := rfl
  obtain rfl := Except.ok.inj (hdrawn.symm.trans hsetup)
  obtain ⟨bySeven, hseven, hq⟩ : Left 4 _ Buffers.quotients final.quotients
    (some .divideConstantBounded) := hquotients
  obtain ⟨bothParts, hboth, hr⟩ : Left 4 _ Buffers.remainders final.remainders
    (some .divideRemainderUnsigned) := hremainders
  obtain rfl := Except.ok.inj hseven
  obtain rfl := Except.ok.inj hboth
  exact ⟨by decide, by decide, _, final, hsetup, hplay, hdividends, hdivisors, hq, hr⟩

end DivisionBenchmark

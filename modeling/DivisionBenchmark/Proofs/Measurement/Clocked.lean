import DivisionBenchmark.Measurement.Runner

/-!
# Measurements under a clock

What a measurement does under a clock: the value or the failure it ends with, and how many readings
it has taken by then. A measurement and its continuation share one sequence of readings, and a
failure takes none of what would have followed.

Two ways to speak about measurements are built on it.

* The value under one clock is computed step by step (`DivisionBenchmark.Measuring.under_bind`).
* What holds under every clock is put together from what holds of the parts
  (`DivisionBenchmark.Measuring.Yields`): a property of the values, and one of the failures.
-/

namespace DivisionBenchmark

instance : LawfulMonad Timed :=
  have bind_done {α : Type} (x : Timed α) : x.bind .done = x := by
    induction x with
    | done value => rfl
    | reading next ih => exact congrArg Timed.reading (funext ih)
  have bind_bind {α β γ : Type} (x : Timed α) (f : α → Timed β) (g : β → Timed γ) :
      (x.bind f).bind g = x.bind fun a => (f a).bind g := by
    induction x with
    | done value => rfl
    | reading next ih => exact congrArg Timed.reading (funext ih)
  LawfulMonad.mk' Timed bind_done (fun _ _ => rfl) bind_bind

namespace Measuring

variable {α β : Type}

/-- **A measurement under a clock** that has given `taken` readings already: what it ends with, and
how many readings the clock has given then. -/
def under (clock : Nat → UInt64) (x : Measuring α) (taken : Nat) : Except Failure α × Nat :=
  Timed.runFrom clock x.run taken

variable {clock : Nat → UInt64} {taken : Nat}

@[simp] theorem under_now : now.under clock taken = (.ok (clock taken), taken + 1) := rfl

theorem under_ofExcept_eq {x result : Except Failure α} (h : x = result) :
    (ofExcept x).under clock taken = (result, taken) := by
  rw [h]
  rfl

theorem under_ofFault_ok {x : Except Fault α} {a : α} (h : x = .ok a) :
    (ofFault x).under clock taken = (.ok a, taken) :=
  under_ofExcept_eq (congrArg (Except.mapError Failure.faulted) h)

theorem under_ofFault_error {x : Except Fault α} {fault : Fault} (h : x = .error fault) :
    (ofFault x).under clock taken = (.error (.faulted fault), taken) :=
  under_ofExcept_eq (congrArg (Except.mapError Failure.faulted) h)

/-- A measurement that has its value goes on with it, at the reading it has come to. -/
theorem under_bind {x : Measuring α} {f : α → Measuring β} {a : α} {reached : Nat}
    (h : x.under clock taken = (.ok a, reached)) :
    (x >>= f).under clock taken = (f a).under clock reached := by
  rw [under] at h
  show Timed.runFrom clock (x.run >>= ExceptT.bindCont f) taken = _
  rw [Timed.runFrom_bind, h]
  rfl

/-- A measurement that fails does not go on. -/
theorem under_bind_error {x : Measuring α} {f : α → Measuring β} {failure : Failure}
    {reached : Nat} (h : x.under clock taken = (.error failure, reached)) :
    (x >>= f).under clock taken = (.error failure, reached) := by
  rw [under] at h
  show Timed.runFrom clock (x.run >>= ExceptT.bindCont f) taken = _
  rw [Timed.runFrom_bind, h]
  rfl

/-- A measurement in two parts has its value where both parts have theirs. -/
theorem under_bind_eq_ok_iff {x : Measuring α} {f : α → Measuring β} {b : β} {finish : Nat} :
    (x >>= f).under clock taken = (.ok b, finish) ↔
      ∃ a reached, x.under clock taken = (.ok a, reached) ∧
        (f a).under clock reached = (.ok b, finish) := by
  constructor
  · intro h
    rcases hx : x.under clock taken with ⟨failure | a, reached⟩
    · rw [under_bind_error hx] at h
      exact absurd (congrArg Prod.fst h) (by simp)
    · rw [under_bind hx] at h
      exact ⟨a, reached, rfl, h⟩
  · rintro ⟨a, reached, hx, h⟩
    rw [under_bind hx]
    exact h

/-- A measurement in two parts fails where the first part does, or where the second does after
it. -/
theorem under_bind_eq_error_iff {x : Measuring α} {f : α → Measuring β} {failure : Failure}
    {finish : Nat} :
    (x >>= f).under clock taken = (.error failure, finish) ↔
      x.under clock taken = (.error failure, finish) ∨
        ∃ a reached, x.under clock taken = (.ok a, reached) ∧
          (f a).under clock reached = (.error failure, finish) := by
  rcases hx : x.under clock taken with ⟨failure' | a, reached⟩
  · rw [under_bind_error hx]
    simp
  · rw [under_bind hx]
    constructor
    · intro h
      exact .inr ⟨a, reached, rfl, h⟩
    · rintro (h | ⟨a', reached', h, hf⟩)
      · exact absurd (congrArg Prod.fst h) (by simp)
      · obtain ⟨ha, rfl⟩ := Prod.mk.inj h
        obtain rfl := Except.ok.inj ha
        exact hf

/-- A computation that reads no clock has its value where it is. -/
theorem under_ofFault_eq_ok_iff {x : Except Fault α} {a : α} {reached : Nat} :
    (ofFault x).under clock taken = (.ok a, reached) ↔ x = .ok a ∧ reached = taken := by
  cases x with
  | error fault =>
    rw [under_ofFault_error rfl]
    simp
  | ok a' =>
    rw [under_ofFault_ok rfl, Prod.mk.injEq, Except.ok.injEq, Except.ok.injEq]
    exact and_congr_right' eq_comm

/-- A measurement that has its value needs no handler. -/
theorem under_tryCatch {x : Measuring α} {handler : Failure → Measuring α} {a : α} {reached : Nat}
    (h : x.under clock taken = (.ok a, reached)) :
    (tryCatch x handler).under clock taken = (.ok a, reached) := by
  have hx : Timed.runFrom clock x taken = (.ok a, reached) := h
  show Timed.runFrom clock (ExceptT.tryCatch x handler) taken = _
  rw [ExceptT.tryCatch, ExceptT.mk, Timed.runFrom_bind, hx]
  rfl

/-- A measurement that fails is handed over. -/
theorem under_tryCatch_error {x : Measuring α} {handler : Failure → Measuring α}
    {failure : Failure} {reached : Nat} (h : x.under clock taken = (.error failure, reached)) :
    (tryCatch x handler).under clock taken = (handler failure).under clock reached := by
  have hx : Timed.runFrom clock x taken = (.error failure, reached) := h
  show Timed.runFrom clock (ExceptT.tryCatch x handler) taken = _
  rw [ExceptT.tryCatch, ExceptT.mk, Timed.runFrom_bind, hx]
  rfl

/-! ### Under every clock -/

/-- **Whatever the clock**, the values have one property, and the failures have another. -/
def Yields (P : α → Prop) (E : Failure → Prop) (x : Measuring α) : Prop :=
  ∀ clock taken, match (x.under clock taken).1 with
    | .ok a => P a
    | .error failure => E failure

variable {P : α → Prop} {Q : β → Prop} {E E' : Failure → Prop} {x : Measuring α}

theorem Yields.of_error (h : x.Yields P E) {failure : Failure} {reached : Nat}
    (hx : x.under clock taken = (.error failure, reached)) : E failure := by
  have hyields := h clock taken
  rw [hx] at hyields
  exact hyields

theorem yields_pure {a : α} (h : P a) : (pure a : Measuring α).Yields P E := fun _ _ => h

theorem yields_throw {failure : Failure} (h : E failure) :
    (throw failure : Measuring α).Yields P E :=
  fun _ _ => h

theorem yields_now : now.Yields (fun _ => True) E := fun _ _ => trivial

theorem yields_ofFault {y : Except Fault α} (hok : ∀ a, y = .ok a → P a)
    (herror : ∀ fault, y = .error fault → E (.faulted fault)) : (ofFault y).Yields P E := by
  intro clock taken
  cases y with
  | ok a => exact hok a rfl
  | error fault => exact herror fault rfl

/-- What the second part yields, it yields of values the first part has. -/
theorem Yields.bind {f : α → Measuring β} (hx : x.Yields P E)
    (hf : ∀ a, P a → (f a).Yields Q E) : (x >>= f).Yields Q E := by
  intro clock taken
  have hvalue := hx clock taken
  rcases hunder : x.under clock taken with ⟨failure | a, reached⟩
  · rw [hunder] at hvalue
    rw [under_bind_error hunder]
    exact hvalue
  · rw [hunder] at hvalue
    rw [under_bind hunder]
    exact hf a hvalue clock reached

/-- A handler turns the failures of a measurement into its own. -/
theorem Yields.tryCatch {handler : Failure → Measuring α} (hx : x.Yields P E')
    (hhandler : ∀ failure, E' failure → (handler failure).Yields P E) :
    (tryCatch x handler).Yields P E := by
  intro clock taken
  have hvalue := hx clock taken
  rcases hunder : x.under clock taken with ⟨failure | a, reached⟩
  · rw [hunder] at hvalue
    rw [under_tryCatch_error hunder]
    exact hhandler failure hvalue clock reached
  · rw [hunder] at hvalue
    rw [under_tryCatch hunder]
    exact hvalue

theorem Yields.mono {P' : α → Prop} (hx : x.Yields P E') (hP : ∀ a, P a → P' a)
    (hE : ∀ failure, E' failure → E failure) : x.Yields P' E := by
  intro clock taken
  have hvalue := hx clock taken
  rcases hunder : x.under clock taken with ⟨failure | a, reached⟩
  · rw [hunder] at hvalue
    exact hE failure hvalue
  · rw [hunder] at hvalue
    exact hP a hvalue

/-- Measurements one after the other fail as one of them does. -/
theorem yields_mapM {γ : Type} {l : List γ} {f : γ → Measuring α}
    (h : ∀ c ∈ l, (f c).Yields (fun _ => True) E) : (l.mapM f).Yields (fun _ => True) E := by
  induction l with
  | nil => exact yields_pure trivial
  | cons c l ih =>
    rw [List.mapM_cons]
    refine (h c List.mem_cons_self).bind fun _ _ => ?_
    exact (ih fun d hd => h d (List.mem_cons_of_mem c hd)).bind fun _ _ => yields_pure trivial

end Measuring

/-! ### Sweeps -/

namespace Runner

variable {runner : Runner} {w : Workload} {resultSize : Nat} {clock : Nat → UInt64} {taken : Nat}

/-- Where the results find room, a sweep is its measurements, one after the other. -/
theorem under_runSweep (h : w.reserve resultSize = .ok ()) :
    (runner.runSweep w resultSize).under clock taken =
      (w.pairs.mapM fun pair => runner.measure pair.1 pair.2).under clock taken :=
  Measuring.under_bind (Measuring.under_ofFault_ok h)

/-- Where they find none, nothing is measured and the clock is not read. -/
theorem under_runSweep_of_fault {fault : Fault} (h : w.reserve resultSize = .error fault) :
    (runner.runSweep w resultSize).under clock taken = (.error (.faulted fault), taken) :=
  Measuring.under_bind_error (Measuring.under_ofFault_error h)

end Runner

end DivisionBenchmark

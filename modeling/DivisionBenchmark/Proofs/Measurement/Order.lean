import DivisionBenchmark.Proofs.Measurement.Accounting

/-!
# The order of a sweep

A sweep is three lists multiplied out: the operation changes first, then the buffer size, then the
divisor type. What stands at a place of the order is read off the place by division with remainder
(`DivisionBenchmark.Workload.PairAt`), whatever the lists hold, repetitions included.

The measurements are taken in this order, each from the reading of the clock that the one before has
come to, and the first that fails is the end of it. None is taken where the results would find no
room.

Main definitions:

* `DivisionBenchmark.Workload.PairAt`: what a sweep measures at a place;
* `DivisionBenchmark.Runner.Measures`: the results of a sweep up to a place.

Main statement: `DivisionBenchmark.Runner.runSweep_order`.
-/

namespace DivisionBenchmark

/-! ### Places -/

/-- Where all parts have one length, the place in the whole is the place of a part and the place
in it. -/
theorem getElem?_flatMap_of_length {α β : Type} {f : α → List β} {n : Nat}
    (hf : ∀ a, (f a).length = n) (l : List α) (k : Nat) :
    (l.flatMap f)[k]? = l[k / n]?.bind fun a => (f a)[k % n]? := by
  rcases Nat.eq_zero_or_pos n with rfl | hpos
  · have hnil (a : α) : f a = [] := List.eq_nil_of_length_eq_zero (hf a)
    rw [List.flatMap_eq_nil_iff.mpr fun a _ => hnil a]
    simp [hnil]
  induction l generalizing k with
  | nil => rfl
  | cons a l ih =>
    rw [List.flatMap_cons]
    rcases Nat.lt_or_ge k n with hlt | hge
    · rw [List.getElem?_append_left (hf a ▸ hlt), Nat.div_eq_of_lt hlt, Nat.mod_eq_of_lt hlt]
      rfl
    · rw [List.getElem?_append_right (hf a ▸ hge), hf, ih, Nat.div_eq_sub_div hpos hge,
        Nat.mod_eq_sub_mod hge, List.getElem?_cons_succ]

namespace Workload

variable {w : Workload}

/-- **What a sweep measures at a place.** -/
structure PairAt (w : Workload) (k : Nat) (pair : Trial × Operation) : Prop where
  /-- The divisor type changes last. -/
  divisorType :
    w.divisorTypes[k / (w.bufferSizes.length * w.operations.length)]? = some pair.1.divisorType
  /-- The buffer size changes before it. -/
  bufferSize :
    w.bufferSizes[k / w.operations.length % w.bufferSizes.length]? = some pair.1.bufferSize
  /-- The operation changes first. -/
  operation : w.operations[k % w.operations.length]? = some pair.2

theorem getElem?_trials (k : Nat) :
    w.trials[k]? = w.divisorTypes[k / w.bufferSizes.length]?.bind fun kind =>
      w.bufferSizes[k % w.bufferSizes.length]?.map fun size => ⟨kind, size⟩ := by
  rw [trials, getElem?_flatMap_of_length fun _ => List.length_map _]
  simp only [List.getElem?_map]

/-- **The pairs of a sweep stand at their places.** -/
theorem getElem?_pairs_eq_some_iff {k : Nat} {pair : Trial × Operation} :
    w.pairs[k]? = some pair ↔ w.PairAt k pair := by
  rw [pairs, getElem?_flatMap_of_length fun _ => List.length_map _, getElem?_trials,
    Nat.div_div_eq_div_mul, Nat.mul_comm w.operations.length]
  simp only [Option.bind_eq_some_iff, Option.map_eq_some_iff, List.getElem?_map]
  constructor
  · rintro ⟨trial, ⟨kind, hkind, size, hsize, rfl⟩, operation, hoperation, rfl⟩
    exact ⟨hkind, hsize, hoperation⟩
  · rintro ⟨hkind, hsize, hoperation⟩
    exact ⟨pair.1, ⟨_, hkind, _, hsize, rfl⟩, _, hoperation, rfl⟩

theorem PairAt.unique {k : Nat} {pair pair' : Trial × Operation} (h : w.PairAt k pair)
    (h' : w.PairAt k pair') : pair = pair' :=
  Option.some.inj
    ((getElem?_pairs_eq_some_iff.mpr h).symm.trans (getElem?_pairs_eq_some_iff.mpr h'))

theorem length_pairs (w : Workload) :
    w.pairs.length = w.divisorTypes.length * w.bufferSizes.length * w.operations.length := by
  rw [← length_trials, pairs]
  induction w.trials with
  | nil => simp
  | cons trial trials ih => simp [ih, Nat.succ_mul, Nat.add_comm]

end Workload

/-! ### Measurements one after the other -/

namespace Measuring

variable {α γ : Type} {f : γ → Measuring α} {l : List γ} {clock : Nat → UInt64}
  {taken finish : Nat}

/-- Measurements that follow one another have their values where each has its own, at the reading
that the one before has come to. -/
theorem under_mapM_eq_ok_iff {results : List α} :
    (l.mapM f).under clock taken = (.ok results, finish) ↔
      ∃ reached : Nat → Nat, reached 0 = taken ∧ reached l.length = finish ∧
        results.length = l.length ∧ ∀ i c, l[i]? = some c → ∃ a, results[i]? = some a ∧
          (f c).under clock (reached i) = (.ok a, reached (i + 1)) := by
  induction l generalizing taken results with
  | nil =>
    constructor
    · intro h
      obtain ⟨hvalue, rfl⟩ := Prod.mk.inj h
      obtain rfl := Except.ok.inj hvalue
      exact ⟨fun _ => taken, rfl, rfl, rfl, fun _ _ h => absurd h (by simp)⟩
    · rintro ⟨reached, rfl, rfl, hlength, -⟩
      obtain rfl := List.length_eq_zero_iff.mp hlength
      rfl
  | cons c l ih =>
    rw [List.mapM_cons, under_bind_eq_ok_iff]
    constructor
    · rintro ⟨a, next, ha, htail⟩
      obtain ⟨as, _, has, hdone⟩ := under_bind_eq_ok_iff.mp htail
      obtain ⟨hvalue, rfl⟩ := Prod.mk.inj hdone
      obtain rfl := Except.ok.inj hvalue
      obtain ⟨reached, rfl, hfinish, hlength, hsteps⟩ := ih.mp has
      refine ⟨fun i => Nat.casesOn (motive := fun _ => Nat) i taken reached, rfl, hfinish,
        congrArg (· + 1) hlength, ?_⟩
      rintro (_ | i) d hd
      · obtain rfl := Option.some.inj hd
        exact ⟨a, rfl, ha⟩
      · exact hsteps i d hd
    · rintro ⟨reached, rfl, hfinish, hlength, hsteps⟩
      obtain _ | ⟨a', as⟩ := results
      · cases hlength
      obtain ⟨a, ha, hstep⟩ := hsteps 0 c rfl
      obtain rfl := Option.some.inj ha
      refine ⟨a', _, hstep, under_bind_eq_ok_iff.mpr ⟨as, finish, ih.mpr ?_, rfl⟩⟩
      exact ⟨fun i => reached (i + 1), rfl, hfinish, Nat.succ.inj hlength,
        fun i d hd => hsteps (i + 1) d hd⟩

/-- Measurements that follow one another fail with the first that fails. -/
theorem under_mapM_eq_error_iff {failure : Failure} :
    (l.mapM f).under clock taken = (.error failure, finish) ↔
      ∃ before c after results reached, l = before ++ c :: after ∧
        (before.mapM f).under clock taken = (.ok results, reached) ∧
        (f c).under clock reached = (.error failure, finish) := by
  constructor
  · intro h
    induction l generalizing taken with
    | nil => cases congrArg Prod.fst h
    | cons c l ih =>
      rw [List.mapM_cons] at h
      rcases under_bind_eq_error_iff.mp h with hc | ⟨a, next, ha, htail⟩
      · exact ⟨[], c, l, [], taken, rfl, rfl, hc⟩
      rcases under_bind_eq_error_iff.mp htail with hl | ⟨as, _, -, hdone⟩
      · obtain ⟨before, d, after, results, reached, rfl, hbefore, hd⟩ := ih hl
        refine ⟨c :: before, d, after, a :: results, reached, rfl, ?_, hd⟩
        rw [List.mapM_cons, under_bind ha, under_bind hbefore]
        rfl
      · cases congrArg Prod.fst hdone
  · rintro ⟨before, c, after, results, reached, rfl, hbefore, hc⟩
    rw [List.mapM_append, under_bind hbefore, List.mapM_cons]
    exact under_bind_error (under_bind_error hc)

end Measuring

/-! ### Sweeps -/

namespace Runner

variable {runner : Runner} {w : Workload} {clock : Nat → UInt64} {taken : Nat}

/-- **The results of a sweep up to a place.** So many readings of the clock have been taken before
each measurement and after the last. -/
structure Measures (runner : Runner) (w : Workload) (clock : Nat → UInt64) (taken k : Nat)
    (results : List Measurement) (reached : Nat → Nat) : Prop where
  /-- The first measurement begins with the sweep. -/
  start : reached 0 = taken
  /-- There is a result for each place. -/
  length : results.length = k
  /-- A result is what the measurement of its place has given, and says what was measured. -/
  result : ∀ i < k, ∃ pair measured, w.PairAt i pair ∧ results[i]? = some measured ∧
    measured.trial = pair.1 ∧ measured.operation = pair.2 ∧
    (runner.measure pair.1 pair.2).under clock (reached i) = (.ok measured, reached (i + 1))

/-- A measurement says what was measured. -/
theorem eq_of_under_measure {trial : Trial} {operation : Operation} {measured : Measurement}
    {finish : Nat}
    (h : (runner.measure trial operation).under clock taken = (.ok measured, finish)) :
    measured.trial = trial ∧ measured.operation = operation := by
  obtain ⟨t, reached, -, hdone⟩ := Measuring.under_bind_eq_ok_iff.mp h
  obtain rfl := Except.ok.inj (Prod.mk.inj hdone).1
  exact ⟨rfl, rfl⟩

/-- The measurements of the first places are those of a sweep up to a place. -/
theorem under_mapM_take_eq_ok_iff {k : Nat} (hk : k ≤ w.pairs.length)
    {results : List Measurement} {finish : Nat} :
    ((w.pairs.take k).mapM fun pair => runner.measure pair.1 pair.2).under clock taken =
        (.ok results, finish) ↔
      ∃ reached, runner.Measures w clock taken k results reached ∧ reached k = finish := by
  have hlength : (w.pairs.take k).length = k := List.length_take_of_le hk
  rw [Measuring.under_mapM_eq_ok_iff, hlength]
  refine exists_congr fun reached => ?_
  constructor
  · rintro ⟨hstart, hfinish, hresults, hsteps⟩
    refine ⟨⟨hstart, hresults, fun i hi => ?_⟩, hfinish⟩
    have hpair := List.getElem?_eq_getElem (l := w.pairs) (Nat.lt_of_lt_of_le hi hk)
    obtain ⟨measured, hmeasured, hunder⟩ :=
      hsteps i _ ((List.getElem?_take_of_lt hi).trans hpair)
    have hlabels := eq_of_under_measure hunder
    exact ⟨_, measured, Workload.getElem?_pairs_eq_some_iff.mp hpair, hmeasured, hlabels.1,
      hlabels.2, hunder⟩
  · rintro ⟨⟨hstart, hresults, hsteps⟩, hfinish⟩
    refine ⟨hstart, hfinish, hresults, fun i pair hpair => ?_⟩
    have hi : i < k := hlength ▸ (List.getElem?_eq_some_iff.mp hpair).1
    rw [List.getElem?_take_of_lt hi, Workload.getElem?_pairs_eq_some_iff] at hpair
    obtain ⟨pair', measured, hpair', hmeasured, -, -, hunder⟩ := hsteps i hi
    obtain rfl := hpair.unique hpair'
    exact ⟨measured, hmeasured, hunder⟩

/-- **A sweep has its results** where they find room and every measurement of its order has its
own. -/
theorem under_runSweep_eq_ok_iff {resultSize : Nat} {results : List Measurement} {finish : Nat} :
    (runner.runSweep w resultSize).under clock taken = (.ok results, finish) ↔
      w.reserve resultSize = .ok () ∧
        ∃ reached, runner.Measures w clock taken w.pairs.length results reached ∧
          reached w.pairs.length = finish := by
  cases hroom : w.reserve resultSize with
  | error fault =>
    rw [under_runSweep_of_fault hroom]
    simp
  | ok =>
    rw [under_runSweep hroom, ← under_mapM_take_eq_ok_iff (Nat.le_refl _), List.take_length]
    exact (and_iff_right rfl).symm

/-- What follows a pair whose measurement fails is not looked at: the failure is that of any list
that goes on otherwise. -/
theorem Measures.under_error {k : Nat} {results : List Measurement} {reached : Nat → Nat}
    {pair : Trial × Operation} {failure : Failure} {finish : Nat}
    (h : runner.Measures w clock taken k results reached) (hpair : w.PairAt k pair)
    (hfail : (runner.measure pair.1 pair.2).under clock (reached k) = (.error failure, finish))
    (rest : List (Trial × Operation)) :
    ((w.pairs.take (k + 1) ++ rest).mapM fun pair => runner.measure pair.1 pair.2).under clock
      taken = (.error failure, finish) := by
  have hget := Workload.getElem?_pairs_eq_some_iff.mpr hpair
  have hk := (List.getElem?_eq_some_iff.mp hget).1
  rw [List.take_add_one, hget, Option.toList_some, List.append_assoc, List.singleton_append]
  exact Measuring.under_mapM_eq_error_iff.mpr ⟨_, pair, rest, results, reached k, rfl,
    (under_mapM_take_eq_ok_iff (Nat.le_of_lt hk)).mpr ⟨reached, h, rfl⟩, hfail⟩

/-- The measurements of a sweep fail where that at some place does, after all before it have had
their results. -/
theorem under_mapM_pairs_eq_error_iff {failure : Failure} {finish : Nat} :
    (w.pairs.mapM fun pair => runner.measure pair.1 pair.2).under clock taken =
        (.error failure, finish) ↔
      ∃ k results reached pair, runner.Measures w clock taken k results reached ∧
        w.PairAt k pair ∧
        (runner.measure pair.1 pair.2).under clock (reached k) = (.error failure, finish) := by
  constructor
  · intro h
    obtain ⟨before, pair, after, results, stop, hpairs, hbefore, hfail⟩ :=
      Measuring.under_mapM_eq_error_iff.mp h
    have htake : w.pairs.take before.length = before := by rw [hpairs, List.take_left]
    have hle : before.length ≤ w.pairs.length := by
      rw [hpairs, List.length_append]
      exact Nat.le_add_right _ _
    rw [← htake] at hbefore
    obtain ⟨reached, hmeasures, rfl⟩ := (under_mapM_take_eq_ok_iff hle).mp hbefore
    refine ⟨before.length, results, reached, pair, hmeasures, ?_, hfail⟩
    rw [← Workload.getElem?_pairs_eq_some_iff, hpairs, List.getElem?_append_right (Nat.le_refl _),
      Nat.sub_self]
    rfl
  · rintro ⟨k, results, reached, pair, hmeasures, hpair, hfail⟩
    have hall := hmeasures.under_error hpair hfail (w.pairs.drop (k + 1))
    rwa [List.take_append_drop] at hall

/-- **A sweep fails** where its results find no room, before anything is measured, or where the
measurement at some place fails. -/
theorem under_runSweep_eq_error_iff {resultSize : Nat} {failure : Failure} {finish : Nat} :
    (runner.runSweep w resultSize).under clock taken = (.error failure, finish) ↔
      (∃ fault, w.reserve resultSize = .error fault ∧ failure = .faulted fault ∧ finish = taken) ∨
      w.reserve resultSize = .ok () ∧
        ∃ k results reached pair, runner.Measures w clock taken k results reached ∧
          w.PairAt k pair ∧
          (runner.measure pair.1 pair.2).under clock (reached k) = (.error failure, finish) := by
  cases hroom : w.reserve resultSize with
  | error fault =>
    rw [under_runSweep_of_fault hroom, Prod.mk.injEq, Except.error.injEq]
    simp [eq_comm]
  | ok =>
    rw [under_runSweep hroom, under_mapM_pairs_eq_error_iff]
    simp

/-- A trial without operand pairs is rejected, and so is its measurement where it has a trial. -/
theorem under_measure_of_empty (htrials : runner.trials ≠ 0) (kind : DivisorType)
    (operation : Operation) :
    (runner.measure ⟨kind, 0⟩ operation).under clock taken =
      (.error (.rejected (.invalidBufferSize 0)), taken) := by
  obtain ⟨n, hn⟩ : ∃ n, runner.trials.toNat = n + 1 :=
    Nat.exists_eq_succ_of_ne_zero fun hzero => htrials (UInt64.toNat_inj.mp hzero)
  have hrun : (runner.runTrial ⟨kind, 0⟩ operation).under clock taken =
      (.error (.rejected (.invalidBufferSize 0)), taken) :=
    Measuring.under_bind_error (Measuring.under_ofExcept_eq rfl)
  rw [measure, hn]
  exact Measuring.under_bind_error (Measuring.under_bind_error
    (Measuring.under_tryCatch_error hrun))

/-- Where there is no trial, nothing is measured. -/
theorem under_measure_of_no_trial (htrials : runner.trials = 0) (trial : Trial)
    (operation : Operation) :
    (runner.measure trial operation).under clock taken =
      (.ok ⟨operation, trial, .empty⟩, taken) := by
  rw [measure, htrials]
  rfl

/-- **The order of a sweep, its completeness, and its end with the first failure.** Let the places
be those of the product of three lists. Their results find room where the number of places is a
count and the bytes can be addressed.

* A sweep has its results where they find room and the measurements of all places have their own,
  one after the other, and the result of a place is what the measurement of its pair has given.
* Where the results find no room, it is abandoned for that, and no reading of the clock is taken.
* Otherwise it fails where the measurement at some place fails and those before it have their
  results; the failure is the same, no reading of the clock is taken after it, and the pairs after
  it could be any others.
* With a trial to run, a pair without operand pairs is rejected for its size; without one, every
  pair has empty statistics. -/
theorem runSweep_order (runner : Runner) (w : Workload) (resultSize : Nat) (clock : Nat → UInt64)
    (taken : Nat) :
    let places := w.divisorTypes.length * w.bufferSizes.length * w.operations.length
    (w.reserve resultSize = .ok () ↔
      places < Count.bound ∧ places * resultSize ≤ Count.addressable) ∧
    (∀ results finish,
      (runner.runSweep w resultSize).under clock taken = (.ok results, finish) ↔
        w.reserve resultSize = .ok () ∧
          ∃ reached, runner.Measures w clock taken places results reached ∧
            reached places = finish) ∧
    (∀ failure finish,
      (runner.runSweep w resultSize).under clock taken = (.error failure, finish) ↔
        (∃ fault, w.reserve resultSize = .error fault ∧ failure = .faulted fault ∧
          finish = taken) ∨
        w.reserve resultSize = .ok () ∧
          ∃ k < places, ∃ results reached pair, runner.Measures w clock taken k results reached ∧
            w.PairAt k pair ∧
            (runner.measure pair.1 pair.2).under clock (reached k) = (.error failure, finish) ∧
            ∀ rest, ((w.pairs.take (k + 1) ++ rest).mapM fun pair =>
              runner.measure pair.1 pair.2).under clock taken = (.error failure, finish)) ∧
    (runner.trials ≠ 0 → ∀ kind operation,
      (runner.measure ⟨kind, 0⟩ operation).under clock taken =
        (.error (.rejected (.invalidBufferSize 0)), taken)) ∧
    (runner.trials = 0 → ∀ trial operation,
      (runner.measure trial operation).under clock taken =
        (.ok ⟨operation, trial, .empty⟩, taken)) := by
  intro places
  have hplaces : w.pairs.length = places := w.length_pairs
  have hbenchmarks : w.benchmarks = places := congrArg (· * w.operations.length) w.length_trials
  refine ⟨hbenchmarks ▸ Workload.reserve_eq_ok_iff, fun results finish => ?_,
    fun failure finish => ?_, under_measure_of_empty, under_measure_of_no_trial⟩
  · rw [under_runSweep_eq_ok_iff, hplaces]
  · rw [under_runSweep_eq_error_iff]
    refine or_congr_right (and_congr_right fun _ => ?_)
    constructor
    · rintro ⟨k, results, reached, pair, hmeasures, hpair, hfail⟩
      have hget := Workload.getElem?_pairs_eq_some_iff.mpr hpair
      exact ⟨k, hplaces ▸ (List.getElem?_eq_some_iff.mp hget).1, results, reached, pair, hmeasures,
        hpair, hfail, hmeasures.under_error hpair hfail⟩
    · rintro ⟨k, -, results, reached, pair, hmeasures, hpair, hfail, -⟩
      exact ⟨k, results, reached, pair, hmeasures, hpair, hfail⟩

/-- An operation is measured under the trial with two operand pairs, and the trial without any is
the end of the sweep. The clock shows a millisecond more with each reading, and a result takes 160
bytes. -/
theorem runSweep_order_of_empty_buffer :
    let runner : Runner := ⟨0, 1, .ofMillis 1, 1, none⟩
    let w : Workload := ⟨[.mixed], [2, 0, 4], [.divideUnsigned]⟩
    runner.trials ≠ 0 ∧
      (runner.runSweep w 160).under (fun n => .ofNat (n * 1000000)) 0 =
        (.error (.rejected (.invalidBufferSize 0)), 3) := by
  intro runner w
  have hends : Lap.Ends (fun n => .ofNat (n * 1000000)) 1000000 ⟨0, 1⟩ := by decide
  have hfit : Lap.Fit (fun n => .ofNat (n * 1000000)) [⟨0, 1⟩] := ⟨by decide, by decide⟩
  have htable : runner.Timetable (fun n => .ofNat (n * 1000000)) 0 [⟨[], [⟨0, 1⟩]⟩] 3 :=
    .of_lap rfl rfl rfl hends hfit
  have hpositive : (Trial.mk .mixed 2).bufferSize ≠ 0 := by decide
  obtain ⟨t, ht, -⟩ := under_measure .divideUnsigned hpositive (by decide) htable
  have hmeasures : runner.Measures w (fun n => .ofNat (n * 1000000)) 0 1
      [⟨.divideUnsigned, ⟨.mixed, 2⟩, t⟩] (3 * ·) := by
    refine ⟨rfl, rfl, fun i hi => ?_⟩
    obtain rfl : i = 0 := Nat.lt_one_iff.mp hi
    exact ⟨(⟨.mixed, 2⟩, .divideUnsigned), _, ⟨by decide, by decide, by decide⟩, rfl, rfl, rfl, ht⟩
  have hpair : w.PairAt 1 (⟨.mixed, 0⟩, .divideUnsigned) := ⟨by decide, by decide, by decide⟩
  obtain ⟨hroom, -, hfails, -⟩ := runSweep_order runner w 160 (fun n => .ofNat (n * 1000000)) 0
  obtain ⟨-, -, -, hempty, -⟩ := runSweep_order runner w 160 (fun n => .ofNat (n * 1000000)) 3
  have hfail := hempty (by decide) .mixed .divideUnsigned
  exact ⟨by decide, (hfails _ 3).mpr (.inr ⟨hroom.mpr (by decide), 1, by decide, _, _, _, hmeasures,
    hpair, hfail, hmeasures.under_error hpair hfail⟩)⟩

end Runner

end DivisionBenchmark

import DivisionBenchmark.Operand.Buffers

/-!
# What the generator of operands gives

The buffers of a trial that is going to be run: four of the length the trial asks for, the results
all zero, and no zero among the divisors, whatever the source draws. Every sweep over them can rely
on it, since nothing after the generator looks at a divisor again.

Main statements:

* `DivisionBenchmark.DivisorType.shape_ne_zero`: no draw becomes a divisor that is zero;
* `DivisionBenchmark.Buffers.setup_eq_ok`, `DivisionBenchmark.Buffers.setup_eq_error`: which trials
  are set up, and what is then in the buffers.
-/

namespace DivisionBenchmark

/-! ### Shaping a draw -/

theorem neg_ne_zero_of_ne_zero {word : Int64} (h : word ≠ 0) : -word ≠ 0 := by
  intro hneg
  apply h
  have := congrArg (fun w : Int64 => -w) hneg
  rwa [Int64.neg_neg] at this

/-- **No draw becomes a divisor that is zero.** -/
theorem DivisorType.shape_ne_zero (kind : DivisorType) (draw : Int64) : kind.shape draw ≠ 0 := by
  -- the zero is replaced before the sign is shaped
  have hfixed : (if draw = 0 then 1 else draw) ≠ 0 := by
    split
    · decide
    · assumption
  cases kind with
  | mixed => exact hfixed
  | positive =>
    simp only [shape]
    generalize (if draw = 0 then 1 else draw) = divisor at hfixed
    split
    · decide
    · split
      · exact neg_ne_zero_of_ne_zero hfixed
      · exact hfixed
  | negative =>
    simp only [shape]
    generalize (if draw = 0 then 1 else draw) = divisor at hfixed
    split
    · exact neg_ne_zero_of_ne_zero hfixed
    · exact hfixed

namespace Buffers

/-! ### Drawing pairs -/

section drawing

variable {σ : Type} [Source σ] (kind : DivisorType)

theorem length_drawPairs (n : Nat) (source : σ) : (drawPairs kind n source).1.length = n := by
  induction n generalizing source with
  | zero => rfl
  | succ n ih => rw [drawPairs_succ, List.length_cons, ih]

/-- No pair is drawn with a divisor that is zero. -/
theorem snd_ne_zero_of_mem_drawPairs {n : Nat} {source : σ} {pair : Int64 × Int64}
    (h : pair ∈ (drawPairs kind n source).1) : pair.2 ≠ 0 := by
  induction n generalizing source with
  | zero => exact absurd h List.not_mem_nil
  | succ n ih =>
    rw [drawPairs_succ] at h
    rcases List.mem_cons.mp h with rfl | h
    · exact kind.shape_ne_zero _
    · exact ih h

end drawing

/-! ### The buffers of a trial -/

/-- All four buffers have this length. -/
structure Level (size : Nat) (b : Buffers) : Prop where
  /-- There are so many dividends. -/
  dividends : b.dividends.length = size
  /-- There are so many divisors. -/
  divisors : b.divisors.length = size
  /-- There is room for so many quotients. -/
  quotients : b.quotients.length = size
  /-- There is room for so many remainders. -/
  remainders : b.remainders.length = size

/-- **Buffers nothing was run on**: of one length, with no zero to divide by, and no result yet. -/
structure Fresh (size : Nat) (b : Buffers) : Prop where
  /-- The buffers have one length. -/
  level : b.Level size
  /-- No divisor is zero. -/
  divisors : 0 ∉ b.divisors
  /-- The quotients are zero. -/
  quotients : b.quotients = List.replicate size 0
  /-- The remainders are zero. -/
  remainders : b.remainders = List.replicate size 0

variable {trial : Trial}

/-- What a source fills the buffers of a trial with. -/
theorem drawFrom_eq_ok {σ : Type} [Source σ] (source : σ)
    (h : trial.bufferSize.toNat < Count.capacity) :
    ∃ b, drawFrom trial source =
        .ok (b, (drawPairs trial.divisorType trial.bufferSize.toNat source).2) ∧
      b.Fresh trial.bufferSize.toNat := by
  have hlen := length_drawPairs trial.divisorType trial.bufferSize.toNat source
  refine ⟨_, if_pos h, ⟨?_, ?_, ?_, ?_⟩, ?_, rfl, rfl⟩
  · exact (List.length_map _).trans hlen
  · exact (List.length_map _).trans hlen
  · exact List.length_replicate
  · exact List.length_replicate
  · intro hzero
    obtain ⟨pair, hpair, hpair_zero⟩ := List.mem_map.mp hzero
    exact snd_ne_zero_of_mem_drawPairs trial.divisorType hpair hpair_zero

/-- **A trial is set up** where it has operand pairs, and no more than can be kept. -/
theorem setup_eq_ok (hpos : trial.bufferSize ≠ 0)
    (hcap : trial.bufferSize.toNat < Count.capacity) :
    ∃ b, setup trial = .ok b ∧ b.Fresh trial.bufferSize.toNat := by
  obtain ⟨b, hb, hfresh⟩ := drawFrom_eq_ok (Seeded.ofSeed seed) hcap
  refine ⟨b, ?_, hfresh⟩
  rw [setup, if_neg hpos, generate, hb]
  rfl

/-- A trial with more operand pairs than can be kept is abandoned. -/
theorem setup_eq_error (hcap : Count.capacity ≤ trial.bufferSize.toNat) :
    setup trial = .error (.faulted .capacityOverflow) := by
  have hpos : trial.bufferSize ≠ 0 := by
    intro h
    rw [h] at hcap
    exact absurd hcap (by decide)
  have hdraw : drawFrom trial (Seeded.ofSeed seed) = .error .capacityOverflow :=
    if_neg (Nat.not_lt.mpr hcap)
  rw [setup, if_neg hpos, generate, hdraw]
  rfl

end Buffers

end DivisionBenchmark

import DivisionBenchmark.Proofs.Operand.Generation

/-!
# Where operands stand in the stream of draws

A source is known by its stream, the draws `DivisionBenchmark.Source.drawAt`. The operands of a
trial are read off the stream in pairs: the draw at an even place is a dividend as it is, and the
draw behind it is shaped into the divisor of the pair.

What shaping keeps of a draw is its absolute value, but for two draws that have none to keep: zero
becomes one, and the least word, which has no positive counterpart, becomes the greatest. This is
said once, by one equation between integers for each policy (`toInt_shape_mixed` and its
neighbours); everything else about divisors is read off these three.

Main statement: `DivisionBenchmark.Buffers.drawFrom_drawn`, whatever the source draws.
-/

namespace DivisionBenchmark

/-! ### Shaping, in integers -/

theorem toInt_neg_eq {word : Int64} (h : word ≠ Int64.minValue) : (-word).toInt = -word.toInt := by
  have hlt := word.toInt_lt
  have hle := word.le_toInt
  have hne : word.toInt ≠ -9223372036854775808 := fun hmin => h (Int64.toInt_inj.mp hmin)
  rw [Int64.toInt_neg]
  exact Int.bmod_eq_of_le (by omega) (by omega)

namespace DivisorType

variable {draw : Int64}

/-- What is drawn is kept, but for zero. -/
theorem toInt_shape_mixed : (shape .mixed draw).toInt = if draw = 0 then 1 else draw.toInt := by
  rw [shape]
  split <;> rfl

/-- A positive divisor is the absolute value of its draw, as far as there is a word for it. -/
theorem toInt_shape_positive :
    (shape .positive draw).toInt =
      if draw = 0 then 1 else min (draw.toInt.natAbs : Int) 9223372036854775807 := by
  have hlt := draw.toInt_lt
  have hle := draw.le_toInt
  by_cases hzero : draw = 0
  · subst hzero
    rfl
  simp only [shape, if_neg hzero]
  by_cases hmin : draw = Int64.minValue
  · subst hmin
    rfl
  have hne : draw.toInt ≠ -9223372036854775808 := fun h => hmin (Int64.toInt_inj.mp h)
  rw [if_neg hmin]
  split
  · rename_i hneg
    rw [Int64.lt_iff_toInt_lt, Int64.toInt_zero] at hneg
    rw [toInt_neg_eq hmin]
    omega
  · rename_i hneg
    rw [Int64.lt_iff_toInt_lt, Int64.toInt_zero] at hneg
    omega

/-- A negative divisor is the absolute value of its draw, with the sign turned. -/
theorem toInt_shape_negative :
    (shape .negative draw).toInt = if draw = 0 then -1 else -(draw.toInt.natAbs : Int) := by
  by_cases hzero : draw = 0
  · subst hzero
    rfl
  simp only [shape, if_neg hzero]
  split
  · rename_i hpos
    have hmin : draw ≠ Int64.minValue := by
      rintro rfl
      exact absurd hpos (by decide)
    rw [Int64.lt_iff_toInt_lt, Int64.toInt_zero] at hpos
    rw [toInt_neg_eq hmin]
    omega
  · rename_i hpos
    rw [Int64.lt_iff_toInt_lt, Int64.toInt_zero] at hpos
    omega

/-- **What a divisor has of its draw.** -/
structure Shaped (kind : DivisorType) (draw divisor : Int64) : Prop where
  /-- It can be divided by. -/
  ne_zero : divisor ≠ 0
  /-- It is positive where divisors are to be. -/
  positive : kind = .positive → 0 < divisor
  /-- It is negative where divisors are to be. -/
  negative : kind = .negative → divisor < 0
  /-- Where divisors keep their sign, it is the draw, but for zero. -/
  mixed : kind = .mixed → divisor = if draw = 0 then 1 else draw
  /-- It has the absolute value of the draw, but for zero, and for the least word where divisors are
  to be positive. -/
  natAbs : divisor.toInt.natAbs =
    if draw = 0 then 1
    else if kind = .positive ∧ draw = Int64.minValue then 9223372036854775807
    else draw.toInt.natAbs

/-- **Every draw is shaped.** -/
theorem shaped_shape (kind : DivisorType) (draw : Int64) : kind.Shaped draw (kind.shape draw) where
  ne_zero := kind.shape_ne_zero draw
  positive := by
    rintro rfl
    rw [Int64.lt_iff_toInt_lt, toInt_shape_positive, Int64.toInt_zero]
    split
    · decide
    · rename_i hzero
      have hne : draw.toInt ≠ 0 := fun h => hzero (Int64.toInt_inj.mp h)
      omega
  negative := by
    rintro rfl
    rw [Int64.lt_iff_toInt_lt, toInt_shape_negative, Int64.toInt_zero]
    split
    · decide
    · rename_i hzero
      have hne : draw.toInt ≠ 0 := fun h => hzero (Int64.toInt_inj.mp h)
      omega
  mixed := by
    rintro rfl
    rfl
  natAbs := by
    have hlt := draw.toInt_lt
    have hle := draw.le_toInt
    have hmin : draw = Int64.minValue ↔ draw.toInt = -9223372036854775808 := Int64.toInt_inj.symm
    cases kind with
    | mixed =>
      rw [toInt_shape_mixed]
      split <;> simp
    | positive =>
      rw [toInt_shape_positive]
      simp only [true_and, hmin]
      split
      · rfl
      · split <;> omega
    | negative =>
      rw [toInt_shape_negative]
      split
      · simp
      · rw [Int.natAbs_neg, Int.natAbs_natCast]
        simp

end DivisorType

/-! ### Places in the stream -/

namespace Buffers

open Source (advance drawAt drawAt_advance)

variable {σ : Type} [Source σ]

/-- The operand pair at a place: its draws stand at two places of the stream. -/
def pairAt (kind : DivisorType) (source : σ) (i : Nat) : Int64 × Int64 :=
  (drawAt source (2 * i), kind.shape (drawAt source (2 * i + 1)))

/-- **The pairs that are drawn are those of the first places**, and each takes two draws. -/
theorem drawPairs_eq (kind : DivisorType) (n : Nat) (source : σ) :
    drawPairs kind n source =
      ((List.range n).map (pairAt kind source), advance (2 * n) source) := by
  induction n generalizing source with
  | zero => rfl
  | succ n ih =>
    have hpair (i : Nat) : pairAt kind (advance 2 source) i = pairAt kind source (i + 1) := by
      rw [pairAt, pairAt, drawAt_advance, drawAt_advance, ← Nat.add_assoc,
        show 2 + 2 * i = 2 * (i + 1) by omega]
    have hnext : (drawPair kind source).2 = advance 2 source := rfl
    have hreached : advance (2 * n) (advance 2 source) = advance (2 * (n + 1)) source := by
      rw [← Source.advance_add, show 2 + 2 * n = 2 * (n + 1) by omega]
    rw [drawPairs_succ, hnext, ih, hreached, List.range_succ_eq_map, List.map_cons, List.map_map]
    refine Prod.ext (congrArg (List.cons _) ?_) rfl
    exact List.map_congr_left fun i _ => hpair i

/-- The buffers of a trial, as far as they can be kept. -/
theorem drawFrom_eq {trial : Trial} (source : σ)
    (hcap : trial.bufferSize.toNat < Count.capacity) :
    drawFrom trial source =
      .ok (⟨(List.range trial.bufferSize.toNat).map fun i => drawAt source (2 * i),
        (List.range trial.bufferSize.toNat).map fun i =>
          trial.divisorType.shape (drawAt source (2 * i + 1)),
        List.replicate trial.bufferSize.toNat 0, List.replicate trial.bufferSize.toNat 0⟩,
        advance (2 * trial.bufferSize.toNat) source) := by
  simp only [drawFrom, if_pos hcap, drawPairs_eq, List.map_map]
  rfl

/-- **Buffers drawn from a source**: of one length, their operands read off its stream, and with no
result yet. -/
structure Drawn (kind : DivisorType) (size : Nat) (source : σ) (b : Buffers) : Prop where
  /-- The buffers have one length. -/
  level : b.Level size
  /-- A dividend is the draw at an even place. -/
  dividends : ∀ i < size, b.dividends[i]? = some (drawAt source (2 * i))
  /-- A divisor is shaped from the draw behind that of its dividend. -/
  divisors : ∀ i < size, ∃ divisor, b.divisors[i]? = some divisor ∧
    kind.Shaped (drawAt source (2 * i + 1)) divisor
  /-- The quotients are zero. -/
  quotients : b.quotients = List.replicate size 0
  /-- The remainders are zero. -/
  remainders : b.remainders = List.replicate size 0

/-- **Whatever a source draws, the buffers of a trial are filled from it**, two draws for each pair,
as long as they can be kept. -/
theorem drawFrom_drawn (trial : Trial) (source : σ)
    (hcap : trial.bufferSize.toNat < Count.capacity) :
    ∃ b, drawFrom trial source = .ok (b, advance (2 * trial.bufferSize.toNat) source) ∧
      b.Drawn trial.divisorType trial.bufferSize.toNat source := by
  refine ⟨_, drawFrom_eq source hcap, ⟨?_, ?_, ?_, ?_⟩, fun i hi => ?_, fun i hi => ?_, rfl, rfl⟩
  · exact (List.length_map _).trans List.length_range
  · exact (List.length_map _).trans List.length_range
  · exact List.length_replicate
  · exact List.length_replicate
  · rw [List.getElem?_map, List.getElem?_range hi]
    rfl
  · refine ⟨_, ?_, trial.divisorType.shaped_shape _⟩
    rw [List.getElem?_map, List.getElem?_range hi]
    rfl

/-- The two draws that have no absolute value to keep come up as divisors here. -/
theorem drawFrom_drawn_of_script :
    (⟨.positive, 3⟩ : Trial).bufferSize.toNat < Count.capacity ∧
      ∃ b : Buffers,
        drawFrom ⟨.positive, 3⟩ (⟨#[5, 0, -7, Int64.minValue], 0, by decide⟩ : Script) =
          .ok (b, ⟨#[5, 0, -7, Int64.minValue], 2, by decide⟩) ∧
        b.Drawn .positive 3 (⟨#[5, 0, -7, Int64.minValue], 0, by decide⟩ : Script) ∧
        b = ⟨[5, -7, 5], [1, Int64.maxValue, 1], [0, 0, 0], [0, 0, 0]⟩ := by
  obtain ⟨b, hb, hdrawn⟩ := drawFrom_drawn ⟨.positive, 3⟩
    (⟨#[5, 0, -7, Int64.minValue], 0, by decide⟩ : Script) (by decide)
  refine ⟨by decide, b, hb, hdrawn, ?_⟩
  exact (congrArg Prod.fst (Except.ok.inj hb)).symm

end Buffers

end DivisionBenchmark

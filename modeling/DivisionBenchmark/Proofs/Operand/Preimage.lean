import DivisionBenchmark.Proofs.Operand.Stream

/-!
# The draws a divisor can be made of

Draws are equally likely, divisors are not: shaping folds the draws onto the divisors of a policy,
and here is how. Where signs are mixed, a divisor is made of itself alone, and where all have one
sign, of itself and of its negation. Four words break the rule. Zero is drawn but never a divisor,
so that one, or its negation, has one draw more; the least word has no negation, so that the
greatest one, as a positive divisor, takes it over, and the least word itself, as a negative
divisor, has no other draw (`DivisionBenchmark.DivisorType.draws`).

Where a draw is negated, its negation is a word. That is said by shaping with every negation taken
among the integers, where there is an answer only if each of them is a word
(`DivisionBenchmark.DivisorType.shape?`).

Main statement: `DivisionBenchmark.DivisorType.shape_eq_iff_mem_draws`.
-/

namespace DivisionBenchmark

/-! ### Negation that is checked -/

/-- The negation of a word, where it is a word. -/
def negate? (word : Int64) : Option Int64 :=
  if h : Int64.minValue.toInt ≤ -word.toInt ∧ -word.toInt ≤ Int64.maxValue.toInt then
    some (.ofIntLE (-word.toInt) h.1 h.2)
  else none

/-- The absolute value of a word, where it is a word. -/
def absolute? (word : Int64) : Option Int64 := if word < 0 then negate? word else some word

/-- Only the least word has no negation. -/
theorem negate?_eq_some {word : Int64} (h : word ≠ Int64.minValue) :
    negate? word = some (-word) := by
  have hlt := word.toInt_lt
  have hle := word.le_toInt
  have hne : word.toInt ≠ -9223372036854775808 := fun hmin => h (Int64.toInt_inj.mp hmin)
  have hfits : Int64.minValue.toInt ≤ -word.toInt ∧ -word.toInt ≤ Int64.maxValue.toInt := by
    rw [Int64.toInt_minValue, Int64.toInt_maxValue]
    omega
  rw [negate?, dif_pos hfits, Option.some.injEq, ← Int64.toInt_inj, Int64.toInt_ofIntLE,
    toInt_neg_eq h]

namespace DivisorType

/-- The divisor made of a draw, where every negation on the way is a word. -/
def shape? (kind : DivisorType) (draw : Int64) : Option Int64 :=
  let divisor := if draw = 0 then 1 else draw
  match kind with
  | .mixed => some divisor
  | .positive => if divisor = Int64.minValue then some Int64.maxValue else absolute? divisor
  | .negative => if 0 < divisor then negate? divisor else some divisor

/-- **Every negation is a word.** -/
theorem shape?_eq_shape (kind : DivisorType) (draw : Int64) :
    kind.shape? draw = some (kind.shape draw) := by
  cases kind with
  | mixed => rfl
  | positive =>
    simp only [shape?, shape]
    generalize (if draw = 0 then 1 else draw) = divisor
    by_cases hmin : divisor = Int64.minValue
    · rw [if_pos hmin, if_pos hmin]
    · rw [if_neg hmin, if_neg hmin, absolute?, negate?_eq_some hmin, apply_ite some]
  | negative =>
    simp only [shape?, shape]
    generalize (if draw = 0 then 1 else draw) = divisor
    by_cases hpos : 0 < divisor
    · have hmin : divisor ≠ Int64.minValue := by
        rintro rfl
        exact absurd hpos (by decide)
      rw [if_pos hpos, if_pos hpos, negate?_eq_some hmin]
    · rw [if_neg hpos, if_neg hpos]

/-! ### Which draws a divisor is made of -/

/-- **The draws a divisor can be made of.** -/
def draws (kind : DivisorType) (divisor : Int64) : List Int64 :=
  match kind with
  | .mixed => if divisor = 0 then [] else divisor :: if divisor = 1 then [0] else []
  | .positive =>
    if divisor ≤ 0 then []
    else [divisor, -divisor] ++ (if divisor = 1 then [0] else []) ++
      if divisor = Int64.maxValue then [Int64.minValue] else []
  | .negative =>
    if 0 ≤ divisor then []
    else if divisor = Int64.minValue then [Int64.minValue]
    else [divisor, -divisor] ++ if divisor = -1 then [0] else []

variable {draw divisor : Int64}

/-- A word is the negation of one that has a negation, where it is so among the integers. -/
theorem eq_neg_iff (h : divisor ≠ Int64.minValue) :
    draw = -divisor ↔ draw.toInt = -divisor.toInt := by
  rw [← Int64.toInt_inj, toInt_neg_eq h]

theorem mem_draws_mixed_iff :
    draw ∈ draws .mixed divisor ↔ divisor ≠ 0 ∧ (draw = divisor ∨ divisor = 1 ∧ draw = 0) := by
  simp [draws]

theorem mem_draws_positive_iff :
    draw ∈ draws .positive divisor ↔ 0 < divisor ∧
      (draw = divisor ∨ draw = -divisor ∨ divisor = 1 ∧ draw = 0 ∨
        divisor = Int64.maxValue ∧ draw = Int64.minValue) := by
  simp [draws]

theorem mem_draws_negative_iff :
    draw ∈ draws .negative divisor ↔ divisor < 0 ∧
      (draw = divisor ∨ divisor ≠ Int64.minValue ∧ draw = -divisor ∨ divisor = -1 ∧ draw = 0) := by
  by_cases hmin : divisor = Int64.minValue
  · subst hmin
    have hleast : draws .negative Int64.minValue = [Int64.minValue] := rfl
    simp [hleast, show Int64.minValue < 0 by decide, show Int64.minValue ≠ -1 by decide]
  · simp [draws, hmin]

/-- A divisor that keeps its sign is made of itself. -/
theorem shape_mixed_eq_iff : shape .mixed draw = divisor ↔ draw ∈ draws .mixed divisor := by
  rw [mem_draws_mixed_iff, ne_eq]
  simp only [← Int64.toInt_inj, toInt_shape_mixed, Int64.toInt_zero, Int64.toInt_one]
  split <;> omega

/-- A positive divisor is made of itself and its negation. -/
theorem shape_positive_eq_iff :
    shape .positive draw = divisor ↔ draw ∈ draws .positive divisor := by
  have hlt := draw.toInt_lt
  have hle := draw.le_toInt
  have hlt' := divisor.toInt_lt
  rw [mem_draws_positive_iff]
  by_cases hpos : 0 < divisor
  · have hmin : divisor ≠ Int64.minValue := by
      rintro rfl
      exact absurd hpos (by decide)
    rw [Int64.lt_iff_toInt_lt, Int64.toInt_zero] at hpos
    rw [eq_neg_iff hmin]
    simp only [← Int64.toInt_inj, toInt_shape_positive, Int64.lt_iff_toInt_lt,
      Int64.toInt_zero, Int64.toInt_one, Int64.toInt_maxValue, Int64.toInt_minValue]
    split <;> omega
  · refine iff_of_false ?_ fun h => hpos h.1
    rintro rfl
    exact hpos ((shaped_shape .positive draw).positive rfl)

/-- A negative divisor is made of itself and, if it has one, its negation. -/
theorem shape_negative_eq_iff :
    shape .negative draw = divisor ↔ draw ∈ draws .negative divisor := by
  have hlt := draw.toInt_lt
  have hle' := divisor.le_toInt
  have hone : (-1 : Int64).toInt = -1 := rfl
  rw [mem_draws_negative_iff, and_congr_right (a := divisor ≠ Int64.minValue) eq_neg_iff]
  by_cases hneg : divisor < 0
  · rw [Int64.lt_iff_toInt_lt, Int64.toInt_zero] at hneg
    simp only [ne_eq, ← Int64.toInt_inj, toInt_shape_negative, Int64.lt_iff_toInt_lt,
      Int64.toInt_zero, hone, Int64.toInt_minValue]
    split <;> omega
  · refine iff_of_false ?_ fun h => hneg h.1
    rintro rfl
    exact hneg ((shaped_shape .negative draw).negative rfl)

/-- A word is not its own negation, unless it is zero or has none. -/
theorem ne_neg (hzero : divisor ≠ 0) (hmin : divisor ≠ Int64.minValue) : divisor ≠ -divisor := by
  rw [ne_eq, ← Int64.toInt_inj, Int64.toInt_zero] at hzero
  rw [ne_eq, eq_neg_iff hmin]
  omega

/-- A divisor has each of its draws once. -/
theorem nodup_draws (kind : DivisorType) (divisor : Int64) : (kind.draws divisor).Nodup := by
  by_cases hzero : divisor = 0
  · subst hzero
    cases kind <;> decide
  by_cases hmin : divisor = Int64.minValue
  · subst hmin
    cases kind <;> decide
  cases kind with
  | mixed =>
    by_cases hone : divisor = 1
    · subst hone
      decide
    · simp [draws, hzero, hone]
  | positive =>
    by_cases hone : divisor = 1
    · subst hone
      decide
    by_cases hmax : divisor = Int64.maxValue
    · subst hmax
      decide
    rw [draws]
    split
    · exact List.nodup_nil
    · simpa [hone, hmax] using ne_neg hzero hmin
  | negative =>
    by_cases hone : divisor = -1
    · subst hone
      decide
    rw [draws]
    split
    · exact List.nodup_nil
    · simpa [hone, hmin] using ne_neg hzero hmin

/-- What has a draw is one of its own draws. -/
theorem mem_draws_self {kind : DivisorType} (h : draw ∈ kind.draws divisor) :
    divisor ∈ kind.draws divisor := by
  cases kind with
  | mixed => exact mem_draws_mixed_iff.mpr ⟨(mem_draws_mixed_iff.mp h).1, .inl rfl⟩
  | positive => exact mem_draws_positive_iff.mpr ⟨(mem_draws_positive_iff.mp h).1, .inl rfl⟩
  | negative => exact mem_draws_negative_iff.mpr ⟨(mem_draws_negative_iff.mp h).1, .inl rfl⟩

/-- **What draws a divisor is made of**, for all words: of itself where signs are mixed, of itself
and its negation where they are not, but for the four words that collide. Each is listed once. No
negation on the way leaves the words, and a divisor that is shaped again stays what it is. -/
theorem shape_eq_iff_mem_draws (kind : DivisorType) :
    (∀ draw divisor, kind.shape draw = divisor ↔ draw ∈ kind.draws divisor) ∧
      (∀ divisor, (kind.draws divisor).Nodup) ∧
      (∀ draw, kind.shape? draw = some (kind.shape draw)) ∧
      ∀ draw, kind.shape (kind.shape draw) = kind.shape draw := by
  have hdraws (draw divisor : Int64) : kind.shape draw = divisor ↔ draw ∈ kind.draws divisor := by
    cases kind with
    | mixed => exact shape_mixed_eq_iff
    | positive => exact shape_positive_eq_iff
    | negative => exact shape_negative_eq_iff
  refine ⟨hdraws, kind.nodup_draws, kind.shape?_eq_shape, fun draw => ?_⟩
  exact (hdraws _ _).mpr (mem_draws_self ((hdraws draw _).mp rfl))

end DivisorType

end DivisionBenchmark

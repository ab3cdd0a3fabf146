import DivisionBenchmark.Proofs.Kernel.Succession

/-!
# Literal divisors and divisors that are read

Four operations spell their divisor out, three read it from a buffer. A benchmark that compares the
two kinds is worth something only if they compute the same, and here it is said in what sense they
do: an operation with a literal divisor leaves what its *counterpart* among the others leaves over
operands that were prepared for it, every dividend by the function the operation applies to it, and
every divisor by the literal one (`DivisionBenchmark.Buffers.prepare`).

Three of the four have such a counterpart (`DivisionBenchmark.Operation.Counterpart`). The fourth
divides signed words, which no other operation does; it is compared with an operation that divides
unsigned ones, once over the lower halves of the dividends and once over what they lack of two to
the 32.

Main statement: `DivisionBenchmark.Operation.literal_divisors_agree`.
-/

namespace DivisionBenchmark

/-- **Prepared operands**: every dividend is replaced by its image, and every divisor by the same
one. -/
def Buffers.prepare (f : Int64 → Int64) (divisor : Int64) (b : Buffers) : Buffers :=
  { b with dividends := b.dividends.map f, divisors := b.divisors.map fun _ => divisor }

/-- Pairs of images with one and the same word are the images of the pairs. -/
theorem zip_map_const {α β γ δ : Type} (f : α → γ) (d : δ) {l : List α} {l' : List β}
    (h : l.length ≤ l'.length) : (l.map f).zip (l'.map fun _ => d) = l.map fun a => (f a, d) := by
  calc (l.map f).zip (l'.map fun _ => d)
      = (l.zip l').map fun pair => (f pair.1, d) := List.zip_map
    _ = ((l.zip l').map Prod.fst).map fun a => (f a, d) := by rw [List.map_map]; rfl
    _ = l.map fun a => (f a, d) := by rw [List.map_fst_zip h]

namespace Operation

variable {operation literal runtime : Operation} {f : Int64 → Int64} {d : Int64} {b : Buffers}

/-! ### Counterparts -/

/-- **An operation with a literal divisor and its counterpart**, which reads divisors: the first
applies `f` to dividends and divides by `d`, and else they are alike. -/
structure Counterpart (literal runtime : Operation) (f : Int64 → Int64) (d : Int64) : Prop where
  /-- The first does not read divisors. -/
  unread : literal.usesRuntimeDivisor = false := by rfl
  /-- The second does. -/
  read : runtime.usesRuntimeDivisor = true := by rfl
  /-- The literal divisor can be divided by. -/
  ne_zero : d ≠ 0 := by decide
  /-- These are the pairs the first walks. -/
  operands : ∀ b : Buffers, literal.operands b = b.dividends.map fun n => (f n, d) := by
    intro b
    rfl
  /-- With enough divisors, both go equally far. -/
  bound : ∀ b : Buffers, b.dividends.length ≤ b.divisors.length → runtime.bound b = literal.bound b
  /-- Both write quotients, or neither does. -/
  writesQuotients : runtime.writesQuotients = literal.writesQuotients := by rfl
  /-- Both write remainders, or neither does. -/
  writesRemainders : runtime.writesRemainders = literal.writesRemainders := by rfl
  /-- They make the same quotient of a pair. -/
  quotientOf : runtime.quotientOf = literal.quotientOf := by rfl

/-- Quotients by seven, of dividends as they are. -/
theorem counterpart_divideUnsignedConstant :
    Counterpart divideUnsignedConstant divideUnsigned id 7 where
  bound b h := by simp only [Operation.bound, Nat.min_eq_left h]

theorem counterpart_remainderUnsignedConstant :
    Counterpart remainderUnsignedConstant remainderUnsigned id 7 where
  bound b h := by simp only [Operation.bound, Nat.min_eq_left h]

theorem counterpart_divideUnsignedConstantBounded :
    Counterpart divideUnsignedConstantBounded divideUnsigned Word.low 15 where
  bound b h := by simp only [Operation.bound, Nat.min_eq_left h]

/-- Preparing operands changes no length, so it leaves the bound where it was. -/
theorem bound_prepare : operation.bound (b.prepare f d) = operation.bound b :=
  bound_of_sameLengths ⟨List.length_map _, List.length_map _, rfl, rfl⟩

/-- An operation that reads divisors walks the pairs it finds prepared. -/
theorem operands_prepare (h : operation.usesRuntimeDivisor = true)
    (hlen : b.dividends.length ≤ b.divisors.length) :
    operation.operands (b.prepare f d) = b.dividends.map fun n => (f n, d) := by
  cases operation
  case divideUnsigned | remainderUnsigned | divideRemainderUnsigned => exact zip_map_const f d hlen
  all_goals exact absurd h (by decide)

namespace Counterpart

variable (h : literal.Counterpart runtime f d)

include h

/-- Over prepared operands the counterpart meets no zero. -/
theorem not_meetsZero_prepare : ¬runtime.MeetsZero (b.prepare f d) := by
  rintro ⟨-, i, -, hzero⟩
  obtain ⟨_, -, rfl⟩ := List.mem_map.mp (List.mem_of_getElem? hzero)
  exact h.ne_zero rfl

variable (hlen : b.dividends.length ≤ b.divisors.length)

include hlen

/-- Over prepared operands the counterpart walks the pairs of the operation. -/
theorem walked_prepare : runtime.walked (b.prepare f d) = literal.walked b := by
  rw [walked, walked, bound_prepare, h.bound b hlen, operands_prepare h.read hlen, h.operands]

/-- **Over prepared operands the counterpart leaves the results of the operation.** -/
theorem run_prepare : runtime.run (b.prepare f d) = .ok { literal.swept b with
    dividends := (b.prepare f d).dividends, divisors := (b.prepare f d).divisors } := by
  rw [run_eq_ok h.not_meetsZero_prepare, swept, Except.ok.injEq, Buffers.mk.injEq]
  refine ⟨rfl, rfl, ?_, ?_⟩
  -- operations differ in how they make quotients, and not in how they make remainders
  · rw [h.writesQuotients, h.quotientOf]
    exact written_congr (h.walked_prepare hlen)
  · rw [h.writesRemainders]
    exact written_congr (h.walked_prepare hlen)

/-- Where all divisors are the literal one and dividends are taken as they are, there is nothing to
prepare: **the operation and its counterpart leave the same**. -/
theorem run_eq_run (hid : f = id) (hall : ∀ divisor ∈ b.divisors, divisor = d) :
    runtime.run b = literal.run b := by
  have hprepared : b.prepare f d = b := by
    subst hid
    have hdivisors : b.divisors.map (fun _ => d) = b.divisors :=
      (List.map_congr_left fun divisor hmem => (hall divisor hmem).symm).trans (List.map_id _)
    rw [Buffers.prepare, List.map_id, hdivisors]
  have hrun := h.run_prepare hlen
  rw [hprepared] at hrun
  rw [hrun, run_of_literal h.unread]
  rfl

end Counterpart

/-! ### Quotients of literal divisors, word by word -/

section words

variable {i : Nat} {n : Int64}

/-- The pair an operation with a literal divisor makes has nothing of the divisor it finds. -/
theorem pairOf_of_literal (h : operation.usesRuntimeDivisor = false) (n d d' : Int64) :
    operation.pairOf n d = operation.pairOf n d' := by
  cases operation
  case divideUnsigned | remainderUnsigned | divideRemainderUnsigned => exact absurd h (by decide)
  all_goals rfl

/-- The quotient that an operation with a literal divisor writes for a dividend. -/
theorem getElem?_quotients_of_literal (h : operation.usesRuntimeDivisor = false)
    (hw : operation.writesQuotients = true) (hi : i < operation.bound b)
    (hn : b.dividends[i]? = some n) :
    (operation.swept b).quotients[i]? = some (operation.quotientOf (operation.pairOf n 0)) := by
  refine (getElem?_written hw hi).trans ?_
  rw [List.getElem!_of_getElem? hn, pairOf_of_literal h n _ 0]

/-- A quotient of a lower half by fifteen is not negative, and at most what the greatest of them
gives. -/
theorem quotient_low_fifteen_range (n : Int64) :
    0 ≤ (Word.quotient (Word.low n) 15).toInt ∧
      (Word.quotient (Word.low n) 15).toInt ≤ 286331153 := by
  rw [Word.toInt_quotient_low_fifteen, UInt32.size]
  omega

/-- **Lower halves divided by fifteen** are words divided by fifteen, over prepared operands. -/
theorem lower_halves_by_fifteen (hlen : b.dividends.length ≤ b.divisors.length) :
    ∃ left prepared, divideUnsignedConstantBounded.run b = .ok left ∧
      divideUnsigned.run (b.prepare Word.low 15) = .ok prepared ∧
      left.quotients = prepared.quotients ∧
      ∀ i < divideUnsignedConstantBounded.bound b, ∃ q, left.quotients[i]? = some q ∧
        0 ≤ q.toInt ∧ q.toInt ≤ 286331153 := by
  refine ⟨_, _, run_of_literal rfl b,
    counterpart_divideUnsignedConstantBounded.run_prepare hlen, rfl, fun i hi => ?_⟩
  have hn := getElem?_eq_some_getElem! (Nat.lt_of_lt_of_le hi (bound_le_dividends _ b))
  exact ⟨_, getElem?_quotients_of_literal rfl rfl hi hn, quotient_low_fifteen_range _⟩

/-- **Signed lower halves divided by seven** are unsigned words divided by seven: over the lower
halves where their top bit is clear, and else, with the sign turned, over what they lack. -/
theorem signed_lower_halves_by_seven (b : Buffers) :
    ∃ left halves lacking, divideConstantBounded.run b = .ok left ∧
      divideUnsignedConstant.run { b with dividends := b.dividends.map Word.low } = .ok halves ∧
      divideUnsignedConstant.run { b with dividends := b.dividends.map Word.lowComplement } =
        .ok lacking ∧
      ∀ i < divideConstantBounded.bound b, ∃ n q p r, b.dividends[i]? = some n ∧
        left.quotients[i]? = some q ∧ halves.quotients[i]? = some p ∧
        lacking.quotients[i]? = some r ∧
        q.toInt = if (Word.magnitude n).testBit 31 then -r.toInt else p.toInt := by
  refine ⟨_, _, _, run_of_literal rfl b, run_of_literal rfl _, run_of_literal rfl _,
    fun i hi => ?_⟩
  have hn := getElem?_eq_some_getElem! (Nat.lt_of_lt_of_le hi (bound_le_dividends _ b))
  have himage (f : Int64 → Int64) :
      (divideUnsignedConstant.swept { b with dividends := b.dividends.map f }).quotients[i]? =
        some (Word.quotient (f b.dividends[i]!) 7) := by
    refine getElem?_quotients_of_literal rfl rfl ?_ ?_
    · rw [bound, List.length_map]
      exact hi
    · rw [List.getElem?_map, hn]
      rfl
  exact ⟨_, _, _, _, hn, getElem?_quotients_of_literal rfl rfl hi hn, himage _, himage _,
    Word.toInt_signedLow_div_seven_eq _⟩

end words

/-- **Sweeps with a literal divisor compute what sweeps compute that read divisors.** Where there is
a divisor for every dividend: with seven for all of them, the sweeps by seven leave the same buffers
as those that read it; the lower halves by fifteen are quotients of operands prepared so; and the
signed lower halves by seven are unsigned quotients by seven, up to the sign that the top bit of the
half stands for. -/
theorem literal_divisors_agree (b : Buffers) (hlen : b.dividends.length ≤ b.divisors.length) :
    ((∀ d ∈ b.divisors, d = 7) →
      (∃ left, divideUnsigned.run b = .ok left ∧ divideUnsignedConstant.run b = .ok left) ∧
        ∃ left, remainderUnsigned.run b = .ok left ∧ remainderUnsignedConstant.run b = .ok left) ∧
      (∃ left prepared, divideUnsignedConstantBounded.run b = .ok left ∧
        divideUnsigned.run (b.prepare Word.low 15) = .ok prepared ∧
        left.quotients = prepared.quotients ∧
        ∀ i < divideUnsignedConstantBounded.bound b, ∃ q, left.quotients[i]? = some q ∧
          0 ≤ q.toInt ∧ q.toInt ≤ 286331153) ∧
      ∃ left halves lacking, divideConstantBounded.run b = .ok left ∧
        divideUnsignedConstant.run { b with dividends := b.dividends.map Word.low } = .ok halves ∧
        divideUnsignedConstant.run { b with dividends := b.dividends.map Word.lowComplement } =
          .ok lacking ∧
        ∀ i < divideConstantBounded.bound b, ∃ n q p r, b.dividends[i]? = some n ∧
          left.quotients[i]? = some q ∧ halves.quotients[i]? = some p ∧
          lacking.quotients[i]? = some r ∧
          q.toInt = if (Word.magnitude n).testBit 31 then -r.toInt else p.toInt := by
  refine ⟨fun hall => ⟨?_, ?_⟩, lower_halves_by_fifteen hlen, signed_lower_halves_by_seven b⟩
  · have hrun := counterpart_divideUnsignedConstant.run_eq_run hlen rfl hall
    rw [hrun, run_of_literal rfl]
    exact ⟨_, rfl, rfl⟩
  · have hrun := counterpart_remainderUnsignedConstant.run_eq_run hlen rfl hall
    rw [hrun, run_of_literal rfl]
    exact ⟨_, rfl, rfl⟩

/-- The lower halves of these dividends have their top bit set, but for the last. -/
theorem literal_divisors_agree_of_sevens :
    ([-1, 2147483653, 100] : List Int64).length ≤ ([7, 7, 7, 7] : List Int64).length ∧
      (∀ d ∈ ([7, 7, 7, 7] : List Int64), d = 7) ∧
      (∃ left, divideUnsigned.run ⟨[-1, 2147483653, 100], [7, 7, 7, 7], [0, 0, 0], []⟩ = .ok left ∧
        divideUnsignedConstant.run ⟨[-1, 2147483653, 100], [7, 7, 7, 7], [0, 0, 0], []⟩ =
          .ok left) ∧
      divideConstantBounded.run ⟨[-1, 2147483653, 100], [7, 7, 7, 7], [0, 0, 0], []⟩ =
        .ok ⟨[-1, 2147483653, 100], [7, 7, 7, 7], [0, -306783377, 14], []⟩ := by
  have hsevens : ∀ d ∈ ([7, 7, 7, 7] : List Int64), d = 7 := by simp
  obtain ⟨hsame, -, -⟩ := literal_divisors_agree
    ⟨[-1, 2147483653, 100], [7, 7, 7, 7], [0, 0, 0], []⟩ (by decide)
  exact ⟨by decide, hsevens, (hsame hsevens).1, rfl⟩

end Operation

end DivisionBenchmark

import DivisionBenchmark.Proofs.Kernel.Outcome

/-!
# What a sweep depends on

Two runs of one operation, side by side. Where the operation says of itself that it does not read
divisors, any divisors may stand in the place of others, none at all and zeros included, and the
results are the same; and only of such an operation is that true. Where it reads them, a zero that
it comes to is what keeps it from leaving anything.

Nor is anything carried from one position of the buffers to another: a position where two sets of
buffers of the same lengths agree (`DivisionBenchmark.Buffers.AgreeAt`) is one where they still
agree after the sweep, whatever else there is in either of them.

Main statement: `DivisionBenchmark.Operation.usesRuntimeDivisor_exact`.
-/

namespace DivisionBenchmark

namespace Buffers

/-- **Buffers that agree at a position**: the same words stand there, or none. -/
structure AgreeAt (i : Nat) (b₁ b₂ : Buffers) : Prop where
  /-- The dividends there are the same. -/
  dividends : b₁.dividends[i]? = b₂.dividends[i]?
  /-- The divisors there are the same. -/
  divisors : b₁.divisors[i]? = b₂.divisors[i]?
  /-- The quotients there are the same. -/
  quotients : b₁.quotients[i]? = b₂.quotients[i]?
  /-- The remainders there are the same. -/
  remainders : b₁.remainders[i]? = b₂.remainders[i]?

end Buffers

namespace Operation

variable {operation : Operation} {b b₁ b₂ : Buffers} {i : Nat}

/-! ### Positions do not look at one another -/

/-- Where operands agree, the pairs made of them are the same. -/
theorem pairOf_of_agreeAt (h : b₁.AgreeAt i b₂) :
    operation.pairOf b₁.dividends[i]! b₁.divisors[i]! =
      operation.pairOf b₂.dividends[i]! b₂.divisors[i]! := by
  simp only [getElem!_def, h.dividends, h.divisors]

section positions

variable (hlen : b₁.SameLengths b₂)

include hlen

/-- What is written at a position depends on the operands there and, where nothing is written, on
what was there before. -/
theorem getElem?_written_of_agreeAt {writes : Bool} {f : Int64 × Int64 → Int64}
    {out₁ out₂ : List Int64} (h : b₁.AgreeAt i b₂) (hout : out₁[i]? = out₂[i]?) :
    (operation.written b₁ writes f out₁)[i]? = (operation.written b₂ writes f out₂)[i]? := by
  have hbound : operation.bound b₁ = operation.bound b₂ := bound_of_sameLengths hlen
  cases hw : writes with
  | false => rw [written_of_not rfl, written_of_not rfl, hout]
  | true =>
    rcases Nat.lt_or_ge i (operation.bound b₂) with hi | hi
    · rw [getElem?_written rfl (hbound ▸ hi), getElem?_written rfl hi, pairOf_of_agreeAt h]
    · rw [getElem?_written_from (hbound ▸ hi), getElem?_written_from hi, hout]

/-- **A sweep keeps agreement at a position.** -/
theorem swept_agreeAt (h : b₁.AgreeAt i b₂) :
    (operation.swept b₁).AgreeAt i (operation.swept b₂) where
  dividends := h.dividends
  divisors := h.divisors
  quotients := getElem?_written_of_agreeAt hlen h h.quotients
  remainders := getElem?_written_of_agreeAt hlen h h.remainders

end positions

/-! ### Divisors that are not read -/

/-- A sweep that does not read divisors takes no notice of other ones. -/
theorem swept_of_other_divisors (h : operation.usesRuntimeDivisor = false)
    (divisors : List Int64) :
    operation.swept { b with divisors := divisors } =
      { operation.swept b with divisors := divisors } := by
  cases operation
  case divideUnsigned | remainderUnsigned | divideRemainderUnsigned => exact absurd h (by decide)
  all_goals rfl

/-- A sweep that reads divisors is abandoned over a single pair with a zero. -/
theorem run_of_single_zero (h : operation.usesRuntimeDivisor = true) :
    operation.run ⟨[0], [0], [0], [0]⟩ = .error operation.zeroFault := by
  refine run_eq_error ⟨h, 0, ?_, rfl⟩
  cases operation <;> decide

/-- **An operation reads divisors exactly where it says so.** If it does not, its results are there
and the same whatever the divisors are, and only then is that so. If it does, it is abandoned
exactly where it comes to a zero. In either case the results at a position are made of what stands
at that position, whatever stands at others. -/
theorem usesRuntimeDivisor_exact (operation : Operation) :
    (operation.usesRuntimeDivisor = false ↔ ∀ (b : Buffers) (divisors : List Int64),
      ∃ left left', operation.run b = .ok left ∧
        operation.run { b with divisors := divisors } = .ok left' ∧
        left.quotients = left'.quotients ∧ left.remainders = left'.remainders) ∧
      (operation.usesRuntimeDivisor = true → ∀ b : Buffers,
        (∃ fault, operation.run b = .error fault) ↔
          ∃ i < operation.bound b, b.divisors[i]? = some 0) ∧
      ∀ (b₁ b₂ left₁ left₂ : Buffers) (i : Nat), b₁.SameLengths b₂ → b₁.AgreeAt i b₂ →
        operation.run b₁ = .ok left₁ → operation.run b₂ = .ok left₂ →
          left₁.quotients[i]? = left₂.quotients[i]? ∧
            left₁.remainders[i]? = left₂.remainders[i]? := by
  refine ⟨⟨fun h b divisors => ?_, fun h => ?_⟩, fun h b => ?_, ?_⟩
  · have hother := swept_of_other_divisors (b := b) h divisors
    exact ⟨_, _, run_of_literal h b, run_of_literal h _,
      (congrArg Buffers.quotients hother).symm, (congrArg Buffers.remainders hother).symm⟩
  · refine Bool.eq_false_iff.mpr fun huses => ?_
    obtain ⟨left, -, hleft, -⟩ := h ⟨[0], [0], [0], [0]⟩ []
    rw [run_of_single_zero huses] at hleft
    cases hleft
  · rw [exists_run_eq_error_iff, MeetsZero, and_iff_right h]
  · intro b₁ b₂ left₁ left₂ i hlen h h₁ h₂
    obtain ⟨-, rfl⟩ := run_eq_ok_iff.mp h₁
    obtain ⟨-, rfl⟩ := run_eq_ok_iff.mp h₂
    have hagree : (operation.swept b₁).AgreeAt i (operation.swept b₂) := swept_agreeAt hlen h
    exact ⟨hagree.quotients, hagree.remainders⟩

/-- The zero stands behind the last pair here, and the buffers agree at the second pair only. -/
theorem usesRuntimeDivisor_exact_of_second_pair :
    divideRemainderUnsigned.usesRuntimeDivisor = true ∧
      (¬∃ fault, divideRemainderUnsigned.run ⟨[9, 100], [2, 7, 0], [1, 1], [1, 1]⟩ =
        .error fault) ∧
      ∃ left₁ left₂, divideRemainderUnsigned.run ⟨[9, 100], [2, 7, 0], [1, 1], [1, 1]⟩ = .ok left₁ ∧
        divideRemainderUnsigned.run ⟨[-5, 100], [-3, 7, 4], [8, 1], [0, 1]⟩ = .ok left₂ ∧
        left₁.quotients[1]? = left₂.quotients[1]? ∧
        left₁.remainders[1]? = left₂.remainders[1]? := by
  obtain ⟨-, hfault, hlocal⟩ := usesRuntimeDivisor_exact divideRemainderUnsigned
  refine ⟨rfl, mt (hfault rfl _).mp (by decide), _, _, rfl, rfl, ?_⟩
  exact hlocal ⟨[9, 100], [2, 7, 0], [1, 1], [1, 1]⟩ ⟨[-5, 100], [-3, 7, 4], [8, 1], [0, 1]⟩ _ _ 1
    ⟨rfl, rfl, rfl, rfl⟩ ⟨rfl, rfl, rfl, rfl⟩ rfl rfl

end Operation

end DivisionBenchmark

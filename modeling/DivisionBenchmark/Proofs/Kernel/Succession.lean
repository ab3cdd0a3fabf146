import DivisionBenchmark.Proofs.Kernel.Outcome

/-!
# Sweeps one after the other

A sweep looks at operands and at lengths, and changes neither. So what a sweep does is not changed
by another one before it: it walks the same pairs (`DivisionBenchmark.Operation.walked_swept`) and
meets the same zeros. Two sweeps can get into each other's way only by what they write, and where
they write different results, their order does not matter.

This is what makes one pass for quotients and remainders as good as two passes. The lengths matter
here, since each pass ends with the shortest buffer that *it* knows of: the one pass knows of both
buffers of results, and each of the two only of its own.

Main statements:

* `DivisionBenchmark.Operation.swept_again`: a sweep run again leaves the same;
* `DivisionBenchmark.Operation.run_comm`: sweeps that write different results, in either order;
* `DivisionBenchmark.Operation.run_divideRemainderUnsigned`: one pass against two.
-/

namespace DivisionBenchmark

/-- **Two computations with the same outcome**: both are abandoned, for whatever cause, or both
leave the same buffers. -/
structure SameOutcome (x y : Except Fault Buffers) : Prop where
  /-- They are abandoned together. -/
  faults : (∃ fault, x = .error fault) ↔ ∃ fault, y = .error fault
  /-- They leave the same. -/
  leaves : ∀ b, x = .ok b ↔ y = .ok b

/-- Computations that leave the same are abandoned together. -/
theorem sameOutcome_of_leaves {x y : Except Fault Buffers} (h : ∀ b, x = .ok b ↔ y = .ok b) :
    SameOutcome x y := by
  refine ⟨?_, h⟩
  have habandoned (z : Except Fault Buffers) : (∃ fault, z = .error fault) ↔ ¬∃ b, z = .ok b := by
    cases z <;> simp
  rw [habandoned x, habandoned y]
  exact not_congr (exists_congr h)

namespace Operation

variable {operation other first second : Operation} {b b' : Buffers}

/-! ### What a sweep leaves of the next one -/

/-- A sweep changes no length, so it leaves the bound of the next one where it was. -/
theorem bound_swept : operation.bound (other.swept b) = operation.bound b :=
  bound_of_sameLengths (swept_sameLengths other b)

/-- A sweep leaves the pairs that the next one walks. -/
theorem walked_swept : operation.walked (other.swept b) = operation.walked b := by
  rw [walked, bound_swept]
  cases operation <;> rfl

/-- A sweep leaves no zero among the divisors that was not there. -/
theorem meetsZero_swept : operation.MeetsZero (other.swept b) ↔ operation.MeetsZero b := by
  rw [MeetsZero, bound_swept]
  rfl

section written

variable {writes writes' : Bool} {f g : Int64 × Int64 → Int64} {out : List Int64}

/-- What is written depends on the pairs that are walked, and on nothing else of the operands. -/
theorem written_congr (h : operation.walked b = other.walked b') :
    operation.written b writes f out = other.written b' writes f out := by
  rw [written, written, h]

theorem written_swept : operation.written (other.swept b) writes f out =
    operation.written b writes f out :=
  written_congr walked_swept

/-- Of two operations one of which does not write a buffer of results, it does not matter there
which is first. -/
theorem written_comm (h : writes = false ∨ writes' = false) :
    second.written (first.swept b) writes' g (first.written b writes f out) =
      first.written (second.swept b) writes f (second.written b writes' g out) := by
  rw [written_swept, written_swept]
  rcases h with h | h
  · rw [written_of_not h, written_of_not h]
  · rw [written_of_not h, written_of_not h]

end written

/-- **A sweep over what it has left leaves the same again.** -/
theorem swept_again : operation.swept (operation.swept b) = operation.swept b := by
  have hwritten (writes : Bool) (result : Int64 × Int64 → Int64) (out : List Int64) :
      operation.written (operation.swept b) writes result
        (operation.written b writes result out) = operation.written b writes result out := by
    rw [written_swept, written, written, Sweep.overwrite, Sweep.overwrite, List.drop_left]
  rw [swept, Buffers.mk.injEq]
  exact ⟨rfl, rfl, hwritten _ _ _, hwritten _ _ _⟩

/-! ### Sweeps that write different results -/

/-- **Two operations that write different results**: no kind of result is written by both. -/
structure Apart (first second : Operation) : Prop where
  /-- Quotients are written by one of them at most. -/
  quotients : first.writesQuotients = false ∨ second.writesQuotients = false
  /-- Remainders are written by one of them at most. -/
  remainders : first.writesRemainders = false ∨ second.writesRemainders = false

/-- Sweeps that write different results leave the same in either order. -/
theorem swept_comm (h : first.Apart second) :
    second.swept (first.swept b) = first.swept (second.swept b) := by
  rw [swept, swept, Buffers.mk.injEq]
  exact ⟨rfl, rfl, written_comm h.quotients, written_comm h.remainders⟩

/-- Two sweeps, one after the other, leave something where neither would meet a zero if it were
alone. -/
theorem run_run_eq_ok_iff :
    (first.run b >>= second.run) = .ok b' ↔
      (¬first.MeetsZero b ∧ ¬second.MeetsZero b) ∧ b' = second.swept (first.swept b) := by
  rw [bind_eq_ok_iff]
  constructor
  · rintro ⟨between, hfirst, hsecond⟩
    obtain ⟨hne, rfl⟩ := run_eq_ok_iff.mp hfirst
    obtain ⟨hne', rfl⟩ := run_eq_ok_iff.mp hsecond
    exact ⟨⟨hne, mt meetsZero_swept.mpr hne'⟩, rfl⟩
  · rintro ⟨⟨hne, hne'⟩, rfl⟩
    exact ⟨_, run_eq_ok hne, run_eq_ok (mt meetsZero_swept.mp hne')⟩

/-- **Sweeps that write different results can be run in either order**, over whatever buffers. -/
theorem run_comm (h : first.Apart second) (b : Buffers) :
    SameOutcome (first.run b >>= second.run) (second.run b >>= first.run) := by
  refine sameOutcome_of_leaves fun b' => ?_
  rw [run_run_eq_ok_iff, run_run_eq_ok_iff, swept_comm h, and_comm (a := ¬first.MeetsZero b)]

/-! ### One pass and two -/

section onePass

variable (hlen : b.quotients.length = b.remainders.length)

include hlen

/-- With as much room for quotients as for remainders, either pass walks the pairs of the one
pass. -/
theorem bound_divideRemainderUnsigned :
    divideUnsigned.bound b = divideRemainderUnsigned.bound b ∧
      remainderUnsigned.bound b = divideRemainderUnsigned.bound b := by
  simp only [bound, hlen, Nat.min_self, and_self]

theorem walked_divideRemainderUnsigned :
    divideRemainderUnsigned.walked b = divideUnsigned.walked b ∧
      divideRemainderUnsigned.walked b = remainderUnsigned.walked b := by
  obtain ⟨hq, hr⟩ := bound_divideRemainderUnsigned hlen
  simp only [walked, operands, hq, hr, and_self]

/-- A zero that the one pass meets is met by either of the two. -/
theorem meetsZero_divideRemainderUnsigned :
    (divideRemainderUnsigned.MeetsZero b ↔ divideUnsigned.MeetsZero b) ∧
      (divideRemainderUnsigned.MeetsZero b ↔ remainderUnsigned.MeetsZero b) := by
  obtain ⟨hq, hr⟩ := bound_divideRemainderUnsigned hlen
  simp only [MeetsZero, usesRuntimeDivisor, hq, hr, and_self]

/-- One pass leaves what the pass for remainders leaves after the pass for quotients. -/
theorem swept_divideRemainderUnsigned :
    divideRemainderUnsigned.swept b = remainderUnsigned.swept (divideUnsigned.swept b) := by
  obtain ⟨hq, hr⟩ := walked_divideRemainderUnsigned hlen
  -- the pass for remainders leaves the quotients as they are, and that for quotients the remainders
  have hquotients : (remainderUnsigned.swept (divideUnsigned.swept b)).quotients =
      (divideUnsigned.swept b).quotients := written_of_not rfl
  have hremainders : (divideUnsigned.swept b).remainders = b.remainders := written_of_not rfl
  rw [swept, swept, Buffers.mk.injEq]
  refine ⟨rfl, rfl, ?_, ?_⟩
  · exact (written_congr hq).trans hquotients.symm
  · rw [hremainders, written_swept]
    exact written_congr hr

end onePass

/-- **One pass is as good as two.** With as much room for quotients as for remainders, whatever the
operands are and however many, the pass that writes both does what the pass for quotients and the
pass for remainders do one after the other, down to the fault; and but for the fault it does not
matter which of the two is first. -/
theorem run_divideRemainderUnsigned (b : Buffers)
    (hlen : b.quotients.length = b.remainders.length) :
    divideRemainderUnsigned.run b = (divideUnsigned.run b >>= remainderUnsigned.run) ∧
      SameOutcome (divideUnsigned.run b >>= remainderUnsigned.run)
        (remainderUnsigned.run b >>= divideUnsigned.run) := by
  refine ⟨?_, run_comm ⟨Or.inr rfl, Or.inl rfl⟩ b⟩
  obtain ⟨hq, hr⟩ := meetsZero_divideRemainderUnsigned hlen
  by_cases h : divideRemainderUnsigned.MeetsZero b
  · rw [run_eq_error h, run_eq_error (hq.mp h)]
    rfl
  · have hboth := run_run_eq_ok_iff.mpr ⟨⟨mt hq.mpr h, mt hr.mpr h⟩, rfl⟩
    rw [run_eq_ok h, hboth, swept_divideRemainderUnsigned hlen]

/-- The operands are of different lengths here, and results are left over behind the last pair. -/
theorem run_divideRemainderUnsigned_of_ragged :
    ([8, 8, 8] : List Int64).length = ([9, 9, 9] : List Int64).length ∧
      divideRemainderUnsigned.run ⟨[100, -1, 5, 6], [7, -2], [8, 8, 8], [9, 9, 9]⟩ =
        .ok ⟨[100, -1, 5, 6], [7, -2], [14, 1, 8], [2, 1, 9]⟩ ∧
      (remainderUnsigned.run ⟨[100, -1, 5, 6], [7, -2], [8, 8, 8], [9, 9, 9]⟩ >>=
        divideUnsigned.run) = .ok ⟨[100, -1, 5, 6], [7, -2], [14, 1, 8], [2, 1, 9]⟩ := by
  have hrun : divideRemainderUnsigned.run ⟨[100, -1, 5, 6], [7, -2], [8, 8, 8], [9, 9, 9]⟩ =
      .ok ⟨[100, -1, 5, 6], [7, -2], [14, 1, 8], [2, 1, 9]⟩ := rfl
  obtain ⟨hsame, horder⟩ := run_divideRemainderUnsigned
    ⟨[100, -1, 5, 6], [7, -2], [8, 8, 8], [9, 9, 9]⟩ rfl
  exact ⟨rfl, hrun, (horder.leaves _).mp (hsame.symm.trans hrun)⟩

end Operation

end DivisionBenchmark

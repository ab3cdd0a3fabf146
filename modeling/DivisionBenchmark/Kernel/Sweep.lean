import DivisionBenchmark.Kernel.Unsigned

/-!
# Sweeps

A sweep walks its operand buffers in parallel and writes one result per position into the buffer
it is given. The shortest buffer it reads or writes bounds it; what lies beyond stays as it was.

Main definitions:

* `DivisionBenchmark.Sweep.overwrite`: a buffer with new leading words;
* `DivisionBenchmark.Sweep.unary`: a sweep over the dividends alone;
* `DivisionBenchmark.Sweep.binary`: a sweep over dividends and divisors, which may fault;
* the seven measured sweeps, from `DivisionBenchmark.Sweep.divideUnsigned` on.
-/

namespace DivisionBenchmark.Sweep

/-- The buffer `out` with its leading words replaced by `new`. -/
def overwrite (out new : List Int64) : List Int64 :=
  new ++ out.drop new.length

/-- The sweep that writes the image of each dividend. -/
def unary (f : Int64 → Int64) (dividends out : List Int64) : List Int64 :=
  overwrite out ((dividends.take out.length).map f)

/-- The sweep that writes a result for each pair of operands; the first fault ends it. -/
def binary (f : Int64 → Int64 → Except Fault Int64) (dividends divisors out : List Int64) :
    Except Fault (List Int64) := do
  let results ← ((dividends.zip divisors).take out.length).mapM fun (n, d) => f n d
  return overwrite out results

/-! ### The measured sweeps -/

/-- Quotients of the operand pairs. -/
def divideUnsigned (dividends divisors quotients : List Int64) : Except Fault (List Int64) :=
  binary Word.divide dividends divisors quotients

/-- Remainders of the operand pairs. -/
def remainderUnsigned (dividends divisors remainders : List Int64) :
    Except Fault (List Int64) :=
  binary Word.modulo dividends divisors remainders

/-- Quotients and remainders of the operand pairs in one pass, the quotient first. -/
def divideRemainderUnsigned (dividends divisors quotients remainders : List Int64) :
    Except Fault (List Int64 × List Int64) := do
  let results ← ((dividends.zip divisors).take (min quotients.length remainders.length)).mapM
    fun (n, d) => do
      let q ← Word.divide n d
      let r ← Word.modulo n d
      return (q, r)
  return (overwrite quotients (results.map Prod.fst), overwrite remainders (results.map Prod.snd))

/-- Signed division by 7, toward zero, of the lower halves of the dividends. -/
def divideConstantBounded (dividends quotients : List Int64) : List Int64 :=
  unary (fun n => Word.signedLow n / 7) dividends quotients

/-- Unsigned division by 7 of the dividends. -/
def divideUnsignedConstant (dividends quotients : List Int64) : List Int64 :=
  unary (fun n => Word.quotient n 7) dividends quotients

/-- Unsigned division by 15 of the lower halves of the dividends. -/
def divideUnsignedConstantBounded (dividends quotients : List Int64) : List Int64 :=
  unary (fun n => Word.quotient (Word.low n) 15) dividends quotients

/-- Unsigned remainder by 7 of the dividends. -/
def remainderUnsignedConstant (dividends remainders : List Int64) : List Int64 :=
  unary (fun n => Word.remainder n 7) dividends remainders

/-! ### What a sweep leaves -/

/-- The leading words of an overwritten buffer are the new ones; the others are as they were. -/
theorem getElem?_overwrite (out new : List Int64) (i : Nat) :
    (overwrite out new)[i]? = if i < new.length then new[i]? else out[i]? := by
  unfold overwrite
  rw [List.getElem?_append]
  split
  · rfl
  · rw [List.getElem?_drop]
    congr 1
    omega

theorem length_overwrite {out new : List Int64} (h : new.length ≤ out.length) :
    (overwrite out new).length = out.length := by
  unfold overwrite
  rw [List.length_append, List.length_drop]
  omega

end DivisionBenchmark.Sweep

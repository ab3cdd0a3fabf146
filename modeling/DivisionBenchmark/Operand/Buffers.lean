import DivisionBenchmark.Count
import DivisionBenchmark.Failure
import DivisionBenchmark.Operand.Source
import DivisionBenchmark.Operand.Trial

/-!
# Operand buffers

The words one trial works on: dividends and divisors, and room for quotients and remainders. All
four are indexed in parallel.

Main definitions:

* `DivisionBenchmark.Buffers`: the four buffers;
* `DivisionBenchmark.Buffers.drawFrom`: the buffers of a trial, drawn from a source;
* `DivisionBenchmark.Buffers.generate`: the same from the source of the fixed seed, so that a
  trial has one set of operands;
* `DivisionBenchmark.Buffers.setup`: the buffers of a trial that is going to be run.
-/

namespace DivisionBenchmark

/-- **The buffers of one trial.** -/
structure Buffers where
  /-- What is divided. -/
  dividends : List Int64
  /-- What it is divided by. -/
  divisors : List Int64
  /-- Room for quotients. -/
  quotients : List Int64
  /-- Room for remainders. -/
  remainders : List Int64
  deriving DecidableEq, Repr

namespace Buffers

/-- The buffers before anything is set up. -/
def empty : Buffers := ⟨[], [], [], []⟩

instance : Inhabited Buffers := ⟨empty⟩

/-- The number of operand pairs. -/
def length (buffers : Buffers) : Nat := buffers.dividends.length

/-- Whether there is no operand pair. -/
def isEmpty (buffers : Buffers) : Bool := buffers.dividends.isEmpty

/-! ### Drawing operands -/

/-- The next operand pair of a source, and the source after it: the dividend is drawn before the
divisor of its pair. -/
def drawPair {σ : Type} [Source σ] (kind : DivisorType) (source : σ) : (Int64 × Int64) × σ :=
  let dividend := Source.next source
  let candidate := Source.next dividend.2
  ((dividend.1, kind.shape candidate.1), candidate.2)

/-- The next `n` operand pairs put in front of those already drawn, latest first. -/
def drawPairsOnto {σ : Type} [Source σ] (kind : DivisorType) :
    Nat → σ → List (Int64 × Int64) → List (Int64 × Int64) × σ
  | 0, source, drawn => (drawn, source)
  | n + 1, source, drawn =>
    drawPairsOnto kind n (drawPair kind source).2 ((drawPair kind source).1 :: drawn)

/-- The next `n` operand pairs of a source, and the source after them. -/
def drawPairs {σ : Type} [Source σ] (kind : DivisorType) (n : Nat) (source : σ) :
    List (Int64 × Int64) × σ :=
  let (drawn, source) := drawPairsOnto kind n source []
  (drawn.reverse, source)

/-- **The buffers of a trial, drawn from a source**, and the source after it. The results are
zero. -/
def drawFrom {σ : Type} [Source σ] (trial : Trial) (source : σ) : Except Fault (Buffers × σ) :=
  let size := trial.bufferSize.toNat
  if size < Count.capacity then
    let (pairs, source) := drawPairs trial.divisorType size source
    .ok (⟨pairs.map Prod.fst, pairs.map Prod.snd, List.replicate size 0, List.replicate size 0⟩,
      source)
  else .error .capacityOverflow

/-- The seed every trial draws its operands from. -/
def seed : UInt64 := 0

/-- The buffers of a trial, drawn from the fixed seed. -/
def generate (trial : Trial) : Except Fault Buffers :=
  (drawFrom trial (Seeded.ofSeed seed)).map Prod.fst

/-- The buffers of a trial that is going to be run: it must have at least one operand pair. -/
def setup (trial : Trial) : Except Failure Buffers :=
  if trial.bufferSize = 0 then .error (.rejected (.invalidBufferSize trial.bufferSize))
  else (generate trial).mapError .faulted

/-! ### What drawing yields -/

theorem drawPairsOnto_eq {σ : Type} [Source σ] (kind : DivisorType) (n : Nat) (source : σ)
    (drawn : List (Int64 × Int64)) :
    drawPairsOnto kind n source drawn =
      ((drawPairsOnto kind n source []).1 ++ drawn, (drawPairsOnto kind n source []).2) := by
  induction n generalizing source drawn with
  | zero => rfl
  | succ n ih =>
    rw [drawPairsOnto, ih, drawPairsOnto, ih _ [_], List.append_assoc]
    rfl

/-- The pairs are drawn one after the other. -/
theorem drawPairs_succ {σ : Type} [Source σ] (kind : DivisorType) (n : Nat) (source : σ) :
    drawPairs kind (n + 1) source =
      ((drawPair kind source).1 :: (drawPairs kind n (drawPair kind source).2).1,
        (drawPairs kind n (drawPair kind source).2).2) := by
  unfold drawPairs
  rw [drawPairsOnto, drawPairsOnto_eq]
  simp only [List.reverse_append, List.reverse_cons, List.reverse_nil, List.nil_append,
    List.cons_append]

end Buffers

end DivisionBenchmark

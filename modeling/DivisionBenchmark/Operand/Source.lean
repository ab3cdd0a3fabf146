import DivisionBenchmark.Fault

/-!
# Sources of draws

Operands are made from a stream of signed 64-bit draws. What supplies the stream is a *source*: a
state with a next draw and a next state. The generator of operands is written against the class
alone, so a pseudo-random source and a scripted one are interchangeable.

Main definitions:

* `DivisionBenchmark.Source`: the class of sources;
* `DivisionBenchmark.Source.advance`, `DivisionBenchmark.Source.drawAt`: the state after some
  draws, and the draw at a position of the stream;
* `DivisionBenchmark.Seeded`: the generator xoshiro256++, its state spread from a 64-bit seed by
  SplitMix64. Both are fixed by their definitions, so the operands of a seed never change;
* `DivisionBenchmark.Script`: a list replayed for ever.
-/

namespace DivisionBenchmark

/-- **A source of signed 64-bit draws.** -/
class Source (σ : Type) where
  /-- The next draw, and the state after it. -/
  next : σ → Int64 × σ

namespace Source

variable {σ : Type} [Source σ]

/-- The state after `n` draws. -/
def advance : Nat → σ → σ
  | 0, s => s
  | n + 1, s => advance n (next s).2

/-- The draw at position `k` of the stream, counted from zero. -/
def drawAt (s : σ) (k : Nat) : Int64 :=
  (next (advance k s)).1

theorem advance_add (m n : Nat) (s : σ) : advance (m + n) s = advance n (advance m s) := by
  induction m generalizing s with
  | zero => rw [Nat.zero_add, advance]
  | succ m ih => rw [Nat.succ_add, advance, advance, ih]

theorem drawAt_advance (m k : Nat) (s : σ) : drawAt (advance m s) k = drawAt s (m + k) := by
  rw [drawAt, drawAt, advance_add]

end Source

/-! ### The seeded source -/

/-- The state of the generator xoshiro256++: four words. -/
structure Seeded where
  /-- The first word of the state. -/
  s₀ : UInt64
  /-- The second word of the state. -/
  s₁ : UInt64
  /-- The third word of the state. -/
  s₂ : UInt64
  /-- The fourth word of the state. -/
  s₃ : UInt64
  deriving DecidableEq, Repr

namespace Seeded

/-- A word rotated to the left by `k` bits, for `k` strictly between 0 and 64. -/
def rotateLeft (x k : UInt64) : UInt64 :=
  (x <<< k) ||| (x >>> (64 - k))

/-- One step of SplitMix64: the next output and the next state. -/
def splitMix (state : UInt64) : UInt64 × UInt64 :=
  let state := state + 0x9e3779b97f4a7c15
  let z := (state ^^^ (state >>> 30)) * 0xbf58476d1ce4e5b9
  let z := (z ^^^ (z >>> 27)) * 0x94d049bb133111eb
  (z ^^^ (z >>> 31), state)

/-- The state whose words are the first four outputs of SplitMix64 from the seed. -/
def ofSeed (seed : UInt64) : Seeded :=
  let (s₀, state) := splitMix seed
  let (s₁, state) := splitMix state
  let (s₂, state) := splitMix state
  let (s₃, _) := splitMix state
  ⟨s₀, s₁, s₂, s₃⟩

/-- One step of xoshiro256++. -/
def step (s : Seeded) : UInt64 × Seeded :=
  let output := rotateLeft (s.s₀ + s.s₃) 23 + s.s₀
  let shifted := s.s₁ <<< 17
  let s₂ := s.s₂ ^^^ s.s₀
  let s₃ := s.s₃ ^^^ s.s₁
  let s₁ := s.s₁ ^^^ s₂
  let s₀ := s.s₀ ^^^ s₃
  (output, ⟨s₀, s₁, s₂ ^^^ shifted, rotateLeft s₃ 45⟩)

instance : Source Seeded where
  next s := let (output, s) := s.step; (output.toInt64, s)

end Seeded

/-! ### The scripted source -/

/-- **A list replayed for ever.** The cursor is the position of the next draw. -/
structure Script where
  /-- What is replayed. -/
  values : Array Int64
  /-- Where the replay stands. -/
  cursor : Nat
  /-- The cursor is a position of the list, so the list is not empty. -/
  cursor_lt : cursor < values.size

namespace Script

/-- The replay of a list from its beginning; a fault where there is nothing to replay. -/
def ofList (values : List Int64) : Except Fault Script :=
  if h : 0 < values.toArray.size then .ok ⟨values.toArray, 0, h⟩ else .error .emptyScript

instance : Source Script where
  next
    | ⟨values, cursor, h⟩ =>
      (values[cursor],
        ⟨values, (cursor + 1) % values.size, Nat.mod_lt _ (Nat.lt_of_le_of_lt (Nat.zero_le _) h)⟩)

end Script

end DivisionBenchmark

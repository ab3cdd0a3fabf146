import DivisionBenchmark.Kernel.Operation
import DivisionBenchmark.Proofs.Kernel.Reading

/-!
# What a sweep leaves

A sweep of an operation over arbitrary buffers, of any lengths and with any words in them, has one
of two outcomes. It faults where it reads divisors and meets a zero among them; else it leaves the
one set of buffers that `DivisionBenchmark.Operation.Swept` describes, position by position and
without a word about how the division is done.

In between stands `DivisionBenchmark.Operation.swept`, which writes down what is left: every
operation walks a list of operand pairs (`DivisionBenchmark.Operation.operands`), the operations
with a literal divisor among them, and puts the words it makes of the pairs in front of what its
buffers held.

Main statements:

* `DivisionBenchmark.Operation.run_eq_ok`, `DivisionBenchmark.Operation.run_eq_error`: the two
  outcomes, by what is written down;
* `DivisionBenchmark.Operation.run_eq_ok_iff_swept`: the outcomes, by what they fulfil.
-/

namespace DivisionBenchmark

/-! ### Sweeps over lists of operands -/

/-- What can be computed of every item is computed of all of them. -/
theorem mapM_eq_ok_map {α β ε : Type} {f : α → Except ε β} {g : α → β} {l : List α}
    (h : ∀ a ∈ l, f a = .ok (g a)) : l.mapM f = .ok (l.map g) := by
  induction l with
  | nil => rfl
  | cons a l ih =>
    rw [List.mapM_cons, h a List.mem_cons_self, ih fun b hb => h b (List.mem_cons_of_mem a hb)]
    rfl

/-- An item that faults makes the whole list fault, if all the items that fault do so alike. -/
theorem mapM_eq_error {α β ε : Type} {f : α → Except ε β} {e : ε} {l : List α}
    (h : ∀ a ∈ l, f a = .error e ∨ ∃ b, f a = .ok b) (hex : ∃ a ∈ l, f a = .error e) :
    l.mapM f = .error e := by
  induction l with
  | nil =>
    obtain ⟨a, ha, -⟩ := hex
    exact absurd ha List.not_mem_nil
  | cons a l ih =>
    rw [List.mapM_cons]
    rcases h a List.mem_cons_self with ha | ⟨b, hb⟩
    · rw [ha]
      rfl
    · have hrest : ∃ a ∈ l, f a = .error e := by
        obtain ⟨a', ha', he⟩ := hex
        rcases List.mem_cons.mp ha' with rfl | hmem
        · rw [hb] at he
          exact absurd he (by simp)
        · exact ⟨a', hmem, he⟩
      rw [hb, ih (fun a' ha' => h a' (List.mem_cons_of_mem a ha')) hrest]
      rfl

/-- **Buffers of the same lengths**, each as long as its like. -/
structure Buffers.SameLengths (b₁ b₂ : Buffers) : Prop where
  /-- There are as many dividends. -/
  dividends : b₁.dividends.length = b₂.dividends.length
  /-- There are as many divisors. -/
  divisors : b₁.divisors.length = b₂.divisors.length
  /-- There is as much room for quotients. -/
  quotients : b₁.quotients.length = b₂.quotients.length
  /-- There is as much room for remainders. -/
  remainders : b₁.remainders.length = b₂.remainders.length

namespace Operation

/-! ### What an operation reads and writes -/

/-- Whether the sweep writes quotients. -/
def writesQuotients : Operation → Bool
  | .remainderUnsigned | .remainderUnsignedConstant => false
  | _ => true

/-- Whether the sweep writes remainders. -/
def writesRemainders : Operation → Bool
  | .remainderUnsigned | .divideRemainderUnsigned | .remainderUnsignedConstant => true
  | _ => false

/-- The number of positions a sweep works on: the length of the shortest buffer that the operation
reads or writes. -/
def bound (operation : Operation) (b : Buffers) : Nat :=
  match operation with
  | .divideUnsigned => min (min b.dividends.length b.divisors.length) b.quotients.length
  | .remainderUnsigned => min (min b.dividends.length b.divisors.length) b.remainders.length
  | .divideRemainderUnsigned =>
    min (min b.dividends.length b.divisors.length) (min b.quotients.length b.remainders.length)
  | .divideConstantBounded | .divideUnsignedConstant | .divideUnsignedConstantBounded =>
    min b.dividends.length b.quotients.length
  | .remainderUnsignedConstant => min b.dividends.length b.remainders.length

/-- **The sweep meets a zero**: the operation reads divisors, and one of those it reads is zero. -/
def MeetsZero (operation : Operation) (b : Buffers) : Prop :=
  operation.usesRuntimeDivisor = true ∧ ∃ i < operation.bound b, b.divisors[i]? = some 0

/-- The operand pairs an operation walks, with the literal divisors filled in. -/
def operands (operation : Operation) (b : Buffers) : List (Int64 × Int64) :=
  match operation with
  | .divideUnsigned | .remainderUnsigned | .divideRemainderUnsigned => b.dividends.zip b.divisors
  | .divideConstantBounded => b.dividends.map fun n => (Word.signedLow n, 7)
  | .divideUnsignedConstant | .remainderUnsignedConstant => b.dividends.map fun n => (n, 7)
  | .divideUnsignedConstantBounded => b.dividends.map fun n => (Word.low n, 15)

/-- The word an operation writes as the quotient of a pair it walks. -/
def quotientOf (operation : Operation) (pair : Int64 × Int64) : Int64 :=
  match operation with
  | .divideConstantBounded => pair.1 / pair.2
  | _ => Word.quotient pair.1 pair.2

/-- The word an operation writes as the remainder of a pair it walks. -/
def remainderOf (pair : Int64 × Int64) : Int64 := Word.remainder pair.1 pair.2

/-- The pairs a sweep comes to. -/
def walked (operation : Operation) (b : Buffers) : List (Int64 × Int64) :=
  (operation.operands b).take (operation.bound b)

/-- A buffer of results after the sweep: where the operation writes them, the results of the pairs
walked stand in front of what was there. -/
def written (operation : Operation) (b : Buffers) (writes : Bool)
    (result : Int64 × Int64 → Int64) (out : List Int64) : List Int64 :=
  Sweep.overwrite out (if writes then (operation.walked b).map result else [])

/-- **The buffers a sweep leaves** that meets no zero. -/
def swept (operation : Operation) (b : Buffers) : Buffers :=
  { b with
    quotients := operation.written b operation.writesQuotients operation.quotientOf b.quotients
    remainders := operation.written b operation.writesRemainders remainderOf b.remainders }

/-- The fault of a sweep that meets a zero: quotients come before remainders. -/
def zeroFault : Operation → Fault
  | .remainderUnsigned => .remainderByZero
  | _ => .divideByZero

/-! ### The bound of a sweep -/

section bounds

variable (operation : Operation) (b : Buffers)

theorem bound_le_dividends : operation.bound b ≤ b.dividends.length := by
  cases operation <;> simp only [bound] <;> omega

theorem bound_le_operands : operation.bound b ≤ (operation.operands b).length := by
  cases operation <;> simp only [bound, operands, List.length_zip, List.length_map] <;> omega

theorem length_walked : (operation.walked b).length = operation.bound b := by
  rw [walked, List.length_take, Nat.min_eq_left (operation.bound_le_operands b)]

variable {operation}

/-- The bound is a matter of lengths. -/
theorem bound_of_sameLengths {b₁ b₂ : Buffers} (h : b₁.SameLengths b₂) :
    operation.bound b₁ = operation.bound b₂ := by
  cases operation <;> simp only [bound, h.dividends, h.divisors, h.quotients, h.remainders]

theorem bound_le_divisors (h : operation.usesRuntimeDivisor = true) :
    operation.bound b ≤ b.divisors.length := by
  cases operation
  case divideUnsigned | remainderUnsigned | divideRemainderUnsigned =>
    simp only [bound]
    omega
  all_goals exact absurd h (by decide)

theorem bound_le_quotients (h : operation.writesQuotients = true) :
    operation.bound b ≤ b.quotients.length := by
  cases operation
  case remainderUnsigned | remainderUnsignedConstant => exact absurd h (by decide)
  all_goals
    simp only [bound]
    omega

theorem bound_le_remainders (h : operation.writesRemainders = true) :
    operation.bound b ≤ b.remainders.length := by
  cases operation
  case remainderUnsigned | divideRemainderUnsigned | remainderUnsignedConstant =>
    simp only [bound]
    omega
  all_goals exact absurd h (by decide)

end bounds

/-! ### The outcome, written down -/

variable {operation : Operation} {b b' : Buffers}

/-- The pairs walked, by their positions. -/
theorem mem_walked_iff {pair : Int64 × Int64} :
    pair ∈ operation.walked b ↔
      ∃ i < operation.bound b, (operation.operands b)[i]? = some pair := by
  simp only [walked, List.mem_iff_getElem?, List.getElem?_take]
  constructor
  · rintro ⟨i, hi⟩
    split at hi
    · exact ⟨i, ‹_›, hi⟩
    · cases hi
  · rintro ⟨i, hi, hpair⟩
    exact ⟨i, by rw [if_pos hi, hpair]⟩

/-- A zero is met where a pair with a zero is walked; literal divisors are none. -/
theorem meetsZero_iff_exists_walked :
    operation.MeetsZero b ↔ ∃ pair ∈ operation.walked b, pair.2 = 0 := by
  constructor
  · rintro ⟨huses, i, hi, hzero⟩
    have hlt : i < b.dividends.length := Nat.lt_of_lt_of_le hi (operation.bound_le_dividends b)
    have hpair : (b.dividends.zip b.divisors)[i]? = some (b.dividends[i], 0) :=
      List.getElem?_zip_eq_some.mpr ⟨List.getElem?_eq_getElem hlt, hzero⟩
    refine ⟨(b.dividends[i], 0), mem_walked_iff.mpr ⟨i, hi, ?_⟩, rfl⟩
    cases operation
    case divideUnsigned | remainderUnsigned | divideRemainderUnsigned => exact hpair
    all_goals exact absurd huses (by decide)
  · rintro ⟨pair, hpair, hzero⟩
    obtain ⟨i, hi, hget⟩ := mem_walked_iff.mp hpair
    cases operation
    case divideUnsigned | remainderUnsigned | divideRemainderUnsigned =>
      refine ⟨rfl, i, hi, ?_⟩
      rw [(List.getElem?_zip_eq_some.mp hget).2, hzero]
    all_goals
      obtain ⟨n, -, rfl⟩ := List.mem_map.mp (List.mem_of_getElem? hget)
      simp at hzero

/-- A computation with one way to fault faults so or has a result. -/
theorem error_or_ok {α : Type} {fault : Fault} {a : α} {c : Prop} [Decidable c] :
    (if c then .error fault else .ok a : Except Fault α) = .error fault ∨
      ∃ b, (if c then .error fault else .ok a : Except Fault α) = .ok b := by
  split
  · exact Or.inl rfl
  · exact Or.inr ⟨a, rfl⟩

/-- A sweep over the pairs of two buffers, where each pair has its result. -/
theorem binary_eq_ok {f : Int64 → Int64 → Except Fault Int64} {g : Int64 × Int64 → Int64}
    {dividends divisors out : List Int64}
    (h : ∀ pair ∈ (dividends.zip divisors).take out.length, f pair.1 pair.2 = .ok (g pair)) :
    Sweep.binary f dividends divisors out =
      .ok (Sweep.overwrite out (((dividends.zip divisors).take out.length).map g)) := by
  have hall : ((dividends.zip divisors).take out.length).mapM (fun pair => f pair.1 pair.2) =
      .ok (((dividends.zip divisors).take out.length).map g) := mapM_eq_ok_map h
  exact congrArg (fun results => results >>= fun words => .ok (Sweep.overwrite out words)) hall

/-- A sweep over the pairs of two buffers, where a pair faults. -/
theorem binary_eq_error {f : Int64 → Int64 → Except Fault Int64} {fault : Fault}
    {dividends divisors out : List Int64}
    (h : ∀ pair ∈ (dividends.zip divisors).take out.length,
      f pair.1 pair.2 = .error fault ∨ ∃ word, f pair.1 pair.2 = .ok word)
    (hex : ∃ pair ∈ (dividends.zip divisors).take out.length, f pair.1 pair.2 = .error fault) :
    Sweep.binary f dividends divisors out = .error fault := by
  have hall : ((dividends.zip divisors).take out.length).mapM (fun pair => f pair.1 pair.2) =
      .error fault := mapM_eq_error h hex
  exact congrArg (fun results => results >>= fun words => .ok (Sweep.overwrite out words)) hall

/-- The pairs of two buffers that are walked, counted by the words there is room for. -/
theorem take_zip (dividends divisors : List Int64) (room : Nat) :
    (dividends.zip divisors).take (min (min dividends.length divisors.length) room) =
      (dividends.zip divisors).take room := by
  rw [List.take_eq_take_iff, List.length_zip]
  omega

/-- A sweep over one buffer, by the pairs made of its words. -/
theorem unary_eq {f : Int64 → Int64} {p : Int64 → Int64 × Int64} {g : Int64 × Int64 → Int64}
    (h : ∀ n, g (p n) = f n) (dividends out : List Int64) :
    Sweep.unary f dividends out = Sweep.overwrite out
      (((dividends.map p).take (min dividends.length out.length)).map g) := by
  have htake : dividends.take out.length = dividends.take (min dividends.length out.length) := by
    rw [List.take_eq_take_iff]
    omega
  rw [Sweep.unary, htake, ← List.map_take, List.map_map]
  congr 2
  exact funext fun n => (h n).symm

/-- Both results of a pair, where its divisor is not zero. -/
def both (pair : Int64 × Int64) : Except Fault (Int64 × Int64) :=
  if pair.2 = 0 then .error .divideByZero
  else .ok (Word.quotient pair.1 pair.2, remainderOf pair)

/-- One pass makes both results of each pair. -/
theorem both_eq :
    (fun (n, d) => do return (← Word.divide n d, ← Word.modulo n d) :
      Int64 × Int64 → Except Fault (Int64 × Int64)) = both := by
  funext ⟨n, d⟩
  simp only [both, Word.divide, Word.modulo]
  split <;> rfl

/-- **A sweep that meets no zero leaves what is written down.** -/
theorem run_eq_ok (h : ¬operation.MeetsZero b) : operation.run b = .ok (operation.swept b) := by
  have hne : ∀ pair ∈ operation.walked b, pair.2 ≠ 0 := fun pair hpair hzero =>
    h (meetsZero_iff_exists_walked.mpr ⟨pair, hpair, hzero⟩)
  cases operation with
  | divideUnsigned =>
    rw [walked, operands, bound, take_zip] at hne
    have hsweep := binary_eq_ok (f := Word.divide) (g := fun pair => Word.quotient pair.1 pair.2)
      fun pair hpair => if_neg (hne pair hpair)
    rw [run, Sweep.divideUnsigned, hsweep, ← take_zip]
    rfl
  | remainderUnsigned =>
    rw [walked, operands, bound, take_zip] at hne
    have hsweep := binary_eq_ok (f := Word.modulo) (g := remainderOf)
      fun pair hpair => if_neg (hne pair hpair)
    rw [run, Sweep.remainderUnsigned, hsweep, ← take_zip]
    rfl
  | divideRemainderUnsigned =>
    rw [walked, operands, bound, take_zip] at hne
    have hpairs := mapM_eq_ok_map (f := both)
      (g := fun pair => (Word.quotient pair.1 pair.2, remainderOf pair))
      fun pair hpair => if_neg (hne pair hpair)
    rw [run, Sweep.divideRemainderUnsigned, both_eq, hpairs, ← take_zip]
    show Except.ok _ = _
    rw [List.map_map, List.map_map]
    rfl
  | divideConstantBounded =>
    have hsweep := unary_eq (f := fun n => Word.signedLow n / 7)
      (p := fun n => (Word.signedLow n, 7)) (g := quotientOf .divideConstantBounded)
      (fun n => rfl) b.dividends b.quotients
    rw [run, Sweep.divideConstantBounded, hsweep]
    rfl
  | divideUnsignedConstant =>
    have hsweep := unary_eq (f := fun n => Word.quotient n 7) (p := fun n => (n, 7))
      (g := quotientOf .divideUnsignedConstant) (fun n => rfl) b.dividends b.quotients
    rw [run, Sweep.divideUnsignedConstant, hsweep]
    rfl
  | divideUnsignedConstantBounded =>
    have hsweep := unary_eq (f := fun n => Word.quotient (Word.low n) 15)
      (p := fun n => (Word.low n, 15)) (g := quotientOf .divideUnsignedConstantBounded)
      (fun n => rfl) b.dividends b.quotients
    rw [run, Sweep.divideUnsignedConstantBounded, hsweep]
    rfl
  | remainderUnsignedConstant =>
    have hsweep := unary_eq (f := fun n => Word.remainder n 7) (p := fun n => (n, 7))
      (g := remainderOf) (fun n => rfl) b.dividends b.remainders
    rw [run, Sweep.remainderUnsignedConstant, hsweep]
    rfl

/-- **A sweep that meets a zero faults.** -/
theorem run_eq_error (h : operation.MeetsZero b) :
    operation.run b = .error operation.zeroFault := by
  obtain ⟨pair, hpair, hzero⟩ := meetsZero_iff_exists_walked.mp h
  cases operation
  case divideUnsigned =>
    rw [walked, operands, bound, take_zip] at hpair
    rw [run, Sweep.divideUnsigned, binary_eq_error (fun pair _ => error_or_ok)
      ⟨pair, hpair, if_pos hzero⟩]
    rfl
  case remainderUnsigned =>
    rw [walked, operands, bound, take_zip] at hpair
    rw [run, Sweep.remainderUnsigned, binary_eq_error (fun pair _ => error_or_ok)
      ⟨pair, hpair, if_pos hzero⟩]
    rfl
  case divideRemainderUnsigned =>
    rw [walked, operands, bound, take_zip] at hpair
    have hpairs := mapM_eq_error (f := both) (fun pair _ => error_or_ok)
      ⟨pair, hpair, if_pos hzero⟩
    rw [run, Sweep.divideRemainderUnsigned, both_eq, hpairs]
    rfl
  all_goals exact absurd h.1 (by decide)

/-- A sweep leaves something where it meets no zero, and then what is written down. -/
theorem run_eq_ok_iff :
    operation.run b = .ok b' ↔ ¬operation.MeetsZero b ∧ b' = operation.swept b := by
  by_cases h : operation.MeetsZero b
  · simp [run_eq_error h, h]
  · simp [run_eq_ok h, h, eq_comm]

/-- A sweep is abandoned exactly where it meets a zero. -/
theorem exists_run_eq_error_iff :
    (∃ fault, operation.run b = .error fault) ↔ operation.MeetsZero b := by
  constructor
  · rintro ⟨fault, hfault⟩
    refine Classical.byContradiction fun h => ?_
    rw [run_eq_ok h] at hfault
    cases hfault
  · exact fun h => ⟨_, run_eq_error h⟩

/-- A sweep with a literal divisor always leaves something. -/
theorem run_of_literal (h : operation.usesRuntimeDivisor = false) (b : Buffers) :
    operation.run b = .ok (operation.swept b) :=
  run_eq_ok fun hzero => absurd hzero.1 (by rw [h]; decide)

/-! ### The outcome, by what it fulfils -/

open Word (magnitude IsQuotient IsRemainder)

/-- **What the words of a position must be**, for the dividend `n` and the divisor `d` there: the
quotient `q` and the remainder `r`, as far as the operation writes them. Nothing is said of a
divisor that the operation does not read, nor of a result that it does not write. -/
def Meets (operation : Operation) (n d q r : Int64) : Prop :=
  match operation with
  | .divideUnsigned => IsQuotient (magnitude n) (magnitude d) (magnitude q)
  | .remainderUnsigned => IsRemainder (magnitude n) (magnitude d) (magnitude r)
  | .divideRemainderUnsigned =>
    IsQuotient (magnitude n) (magnitude d) (magnitude q) ∧
      IsRemainder (magnitude n) (magnitude d) (magnitude r) ∧
      magnitude n = magnitude q * magnitude d + magnitude r
  | .divideConstantBounded => q.toInt = ((magnitude n : Int).bmod UInt32.size).tdiv 7
  | .divideUnsignedConstant => IsQuotient (magnitude n) 7 (magnitude q)
  | .divideUnsignedConstantBounded => q.toInt = ((magnitude n % UInt32.size / 15 : Nat) : Int)
  | .remainderUnsignedConstant => IsRemainder (magnitude n) 7 (magnitude r)

/-- **What a sweep that meets no zero leaves**, of buffers `b`. -/
structure Swept (operation : Operation) (b b' : Buffers) : Prop where
  /-- The dividends are as they were. -/
  dividends : b'.dividends = b.dividends
  /-- The divisors are as they were. -/
  divisors : b'.divisors = b.divisors
  /-- There is as much room for quotients as there was. -/
  length_quotients : b'.quotients.length = b.quotients.length
  /-- There is as much room for remainders as there was. -/
  length_remainders : b'.remainders.length = b.remainders.length
  /-- An operation that writes no quotients leaves those that are there. -/
  quotients : operation.writesQuotients = false → b'.quotients = b.quotients
  /-- An operation that writes no remainders leaves those that are there. -/
  remainders : operation.writesRemainders = false → b'.remainders = b.remainders
  /-- From the bound on, no quotient is touched. -/
  quotients_from : ∀ i, operation.bound b ≤ i → b'.quotients[i]? = b.quotients[i]?
  /-- From the bound on, no remainder is touched. -/
  remainders_from : ∀ i, operation.bound b ≤ i → b'.remainders[i]? = b.remainders[i]?
  /-- Below the bound, every position holds what it must. -/
  meets : ∀ i < operation.bound b,
    operation.Meets b.dividends[i]! b.divisors[i]! b'.quotients[i]! b'.remainders[i]!

/-- The pair an operation makes of the dividend and the divisor of a position. -/
def pairOf (operation : Operation) (n d : Int64) : Int64 × Int64 :=
  match operation with
  | .divideUnsigned | .remainderUnsigned | .divideRemainderUnsigned => (n, d)
  | .divideConstantBounded => (Word.signedLow n, 7)
  | .divideUnsignedConstant | .remainderUnsignedConstant => (n, 7)
  | .divideUnsignedConstantBounded => (Word.low n, 15)

theorem getElem?_eq_some_getElem! {words : List Int64} {i : Nat} (h : i < words.length) :
    words[i]? = some words[i]! := by
  rw [List.getElem?_eq_getElem h, getElem!_pos words i h]

/-- The pair walked at a position is made of the dividend and the divisor there. -/
theorem getElem?_operands {i : Nat} (hi : i < operation.bound b) :
    (operation.operands b)[i]? = some (operation.pairOf b.dividends[i]! b.divisors[i]!) := by
  have hn := getElem?_eq_some_getElem!
    (Nat.lt_of_lt_of_le hi (operation.bound_le_dividends b))
  cases operation
  case divideUnsigned | remainderUnsigned | divideRemainderUnsigned =>
    have hd := getElem?_eq_some_getElem! (Nat.lt_of_lt_of_le hi (bound_le_divisors b rfl))
    exact List.getElem?_zip_eq_some.mpr ⟨hn, hd⟩
  all_goals
    rw [operands, List.getElem?_map, hn]
    rfl

/-- Where no zero is met, no pair that is walked divides by one. -/
theorem pairOf_ne_zero (h : ¬operation.MeetsZero b) {i : Nat} (hi : i < operation.bound b) :
    (operation.pairOf b.dividends[i]! b.divisors[i]!).2 ≠ 0 := fun hzero =>
  h (meetsZero_iff_exists_walked.mpr ⟨_, mem_walked_iff.mpr ⟨i, hi, getElem?_operands hi⟩, hzero⟩)

/-- What is asked of a position where only the first kind of result is written. -/
theorem iff_of_first {p a c : Prop} (h : p ↔ a) : p ↔ (true = true → a) ∧ (false = true → c) :=
  ⟨fun hp => ⟨fun _ => h.mp hp, fun hf => absurd hf (by decide)⟩, fun ha => h.mpr (ha.1 rfl)⟩

/-- What is asked of a position where only the second kind of result is written. -/
theorem iff_of_second {p a c : Prop} (h : p ↔ c) : p ↔ (false = true → a) ∧ (true = true → c) :=
  ⟨fun hp => ⟨fun hf => absurd hf (by decide), fun _ => h.mp hp⟩, fun hc => h.mpr (hc.2 rfl)⟩

/-- **The words of a position are known by what they must be**: they are the words the operation
makes of the pair there. -/
theorem meets_iff {n d q r : Int64} (hne : (operation.pairOf n d).2 ≠ 0) :
    operation.Meets n d q r ↔
      (operation.writesQuotients = true → q = operation.quotientOf (operation.pairOf n d)) ∧
        (operation.writesRemainders = true → r = remainderOf (operation.pairOf n d)) := by
  cases operation with
  | divideUnsigned | divideUnsignedConstant =>
    exact iff_of_first (Word.isQuotient_magnitude_iff hne)
  | remainderUnsigned | remainderUnsignedConstant =>
    exact iff_of_second (Word.isRemainder_magnitude_iff hne)
  | divideRemainderUnsigned =>
    have hsum : magnitude n =
        magnitude (Word.quotient n d) * magnitude d + magnitude (Word.remainder n d) := by
      rw [Word.magnitude_quotient, Word.magnitude_remainder, Nat.mul_comm]
      exact (Nat.div_add_mod _ _).symm
    constructor
    · rintro ⟨hq, hr, -⟩
      exact ⟨fun _ => (Word.isQuotient_magnitude_iff hne).mp hq,
        fun _ => (Word.isRemainder_magnitude_iff hne).mp hr⟩
    · rintro ⟨hq, hr⟩
      obtain rfl : q = Word.quotient n d := hq rfl
      obtain rfl : r = Word.remainder n d := hr rfl
      exact ⟨(Word.isQuotient_magnitude_iff hne).mpr rfl,
        (Word.isRemainder_magnitude_iff hne).mpr rfl, hsum⟩
  | divideConstantBounded =>
    rw [Meets, ← Word.toInt_signedLow_div_seven, Int64.toInt_inj]
    exact iff_of_first Iff.rfl
  | divideUnsignedConstantBounded =>
    rw [Meets, ← Word.toInt_quotient_low_fifteen, Int64.toInt_inj]
    exact iff_of_first Iff.rfl

/-! ### What is written down fulfils it, and nothing else does -/

section written

variable {writes : Bool} {f : Int64 × Int64 → Int64} {out : List Int64} {i : Nat}

/-- Results that the operation does not write stay. -/
theorem written_of_not (h : writes = false) : operation.written b writes f out = out := by
  rw [written, h]
  rfl

/-- Below the bound stand the results of the pairs walked. -/
theorem getElem?_written (h : writes = true) (hi : i < operation.bound b) :
    (operation.written b writes f out)[i]? =
      some (f (operation.pairOf b.dividends[i]! b.divisors[i]!)) := by
  rw [written, if_pos h, Sweep.getElem?_overwrite, List.length_map, length_walked, if_pos hi,
    List.getElem?_map, walked, List.getElem?_take, if_pos hi, getElem?_operands hi]
  rfl

/-- From the bound on, nothing is touched. -/
theorem getElem?_written_from (hi : operation.bound b ≤ i) :
    (operation.written b writes f out)[i]? = out[i]? := by
  rw [written, Sweep.getElem?_overwrite]
  split
  · rw [List.length_map, length_walked, if_neg (by omega)]
  · rfl

/-- A buffer of results that bounds the sweep keeps its length. -/
theorem length_written (h : writes = true → operation.bound b ≤ out.length) :
    (operation.written b writes f out).length = out.length := by
  rw [written]
  split
  · rename_i hw
    exact Sweep.length_overwrite (by rw [List.length_map, length_walked]; exact h hw)
  · rfl

/-- A buffer is known to be the written one by its length and its words. -/
theorem eq_written {words : List Int64} (hw : writes = true → operation.bound b ≤ out.length)
    (hlen : words.length = out.length) (hnot : writes = false → words = out)
    (hfrom : ∀ i, operation.bound b ≤ i → words[i]? = out[i]?)
    (hbelow : writes = true → ∀ i < operation.bound b,
      words[i]! = f (operation.pairOf b.dividends[i]! b.divisors[i]!)) :
    words = operation.written b writes f out := by
  cases h : writes with
  | false => rw [hnot h, written_of_not rfl]
  | true =>
    refine List.ext_getElem? fun i => ?_
    rcases Nat.lt_or_ge i (operation.bound b) with hi | hi
    · have hbound := hw h
      rw [getElem?_written rfl hi, ← hbelow h i hi]
      exact getElem?_eq_some_getElem! (by omega)
    · rw [hfrom i hi, getElem?_written_from hi]

end written

/-- A sweep changes no length. -/
theorem swept_sameLengths (operation : Operation) (b : Buffers) :
    (operation.swept b).SameLengths b where
  dividends := rfl
  divisors := rfl
  quotients := length_written (bound_le_quotients b)
  remainders := length_written (bound_le_remainders b)

/-- What is written down is what a sweep must leave. -/
theorem swept_swept (h : ¬operation.MeetsZero b) : operation.Swept b (operation.swept b) where
  dividends := rfl
  divisors := rfl
  length_quotients := (swept_sameLengths operation b).quotients
  length_remainders := (swept_sameLengths operation b).remainders
  quotients := written_of_not
  remainders := written_of_not
  quotients_from _ := getElem?_written_from
  remainders_from _ := getElem?_written_from
  meets _ hi := (meets_iff (pairOf_ne_zero h hi)).mpr
    ⟨fun hw => List.getElem!_of_getElem? (getElem?_written hw hi),
      fun hw => List.getElem!_of_getElem? (getElem?_written hw hi)⟩

/-- What a sweep must leave is what is written down. -/
theorem Swept.eq_swept (hs : operation.Swept b b') (h : ¬operation.MeetsZero b) :
    b' = operation.swept b := by
  have hmeets := fun i (hi : i < operation.bound b) =>
    (meets_iff (pairOf_ne_zero h hi)).mp (hs.meets i hi)
  have hquotients := eq_written (f := operation.quotientOf) (bound_le_quotients b)
    hs.length_quotients hs.quotients hs.quotients_from fun hw i hi => (hmeets i hi).1 hw
  have hremainders := eq_written (f := remainderOf) (bound_le_remainders b)
    hs.length_remainders hs.remainders hs.remainders_from fun hw i hi => (hmeets i hi).2 hw
  rw [swept, ← hquotients, ← hremainders, ← hs.dividends, ← hs.divisors]

/-- **A sweep divides**: over any buffers, it faults exactly where it meets a zero, and what it
leaves elsewhere is exactly what `DivisionBenchmark.Operation.Swept` asks for. -/
theorem run_eq_ok_iff_swept (operation : Operation) (b : Buffers) :
    ((∃ fault, operation.run b = .error fault) ↔
        operation.usesRuntimeDivisor = true ∧ ∃ i < operation.bound b, b.divisors[i]? = some 0) ∧
      ∀ b', operation.run b = .ok b' ↔ ¬operation.MeetsZero b ∧ operation.Swept b b' := by
  refine ⟨exists_run_eq_error_iff, fun b' => ?_⟩
  rw [run_eq_ok_iff]
  refine and_congr_right fun h => ⟨?_, fun hs => hs.eq_swept h⟩
  rintro rfl
  exact swept_swept h

end Operation

end DivisionBenchmark

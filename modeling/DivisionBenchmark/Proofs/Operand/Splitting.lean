import DivisionBenchmark.Proofs.Operand.Stream

/-!
# Operands drawn in parts

Drawing operands does nothing but read the stream of a source from where the source stands. So it
may be done in parts: pairs that are drawn after others are the ones that would have come after them
in a single draw, and the source is left where a single draw leaves it. The divisor type has no say
in how far the source is read, nor in the dividends.

A script is the source whose stream can be written down: its draws are the words of the list it
replays, over and over (`DivisionBenchmark.Script.getElem?_eq_some_drawAt`). The one invariant is
that of its cursor, which stands at the number of draws modulo the length of the list
(`DivisionBenchmark.Script.cursor_advance`).

Main statement: `DivisionBenchmark.Buffers.drawFrom_in_parts`.
-/

namespace DivisionBenchmark

open Source (advance drawAt drawAt_advance)

/-! ### The stream of a script -/

namespace Script

variable {script : Script} {values : List Int64}

theorem values_advance (k : Nat) (script : Script) :
    (advance k script).values = script.values := by
  induction k generalizing script with
  | zero => rfl
  | succ k ih => exact ih _

/-- **The cursor counts draws**, modulo the length of the list. -/
theorem cursor_advance (k : Nat) (script : Script) :
    (advance k script).cursor = (script.cursor + k) % script.values.size := by
  induction k generalizing script with
  | zero => exact (Nat.mod_eq_of_lt script.cursor_lt).symm
  | succ k ih =>
    have hnext : (Source.next script).2.cursor = (script.cursor + 1) % script.values.size := rfl
    have hvalues : (Source.next script).2.values = script.values := rfl
    rw [advance, ih, hnext, hvalues, Nat.mod_add_mod, Nat.add_assoc, Nat.add_comm 1 k]

/-- A draw is the word at the cursor. -/
theorem getElem?_cursor (script : Script) :
    script.values[script.cursor]? = some (Source.next script).1 :=
  Array.getElem?_eq_getElem script.cursor_lt

/-- The replay of a list that is not empty begins at its beginning. -/
theorem exists_ofList (h : values ≠ []) :
    ∃ script, ofList values = .ok script ∧ script.values = values.toArray ∧ script.cursor = 0 := by
  have hpos : 0 < values.toArray.size := by
    rw [List.size_toArray]
    exact List.length_pos_iff.mpr h
  exact ⟨⟨values.toArray, 0, hpos⟩, dif_pos hpos, rfl, rfl⟩

/-- **The draws of a script are the words of its list**, over and over. -/
theorem getElem?_eq_some_drawAt (hvalues : script.values = values.toArray)
    (hcursor : script.cursor = 0) (k : Nat) :
    values[k % values.length]? = some (drawAt script k) := by
  have hdraw := getElem?_cursor (advance k script)
  rw [values_advance, cursor_advance, hcursor, Nat.zero_add, hvalues, List.size_toArray,
    List.getElem?_toArray] at hdraw
  exact hdraw

end Script

namespace Buffers

/-! ### Buffers in parts -/

/-- Buffers put behind one another, each behind its like. -/
instance : Append Buffers where
  append b₁ b₂ := ⟨b₁.dividends ++ b₂.dividends, b₁.divisors ++ b₂.divisors,
    b₁.quotients ++ b₂.quotients, b₁.remainders ++ b₂.remainders⟩

/-- **Buffers that others begin with**, each with its like. -/
structure Begins (b b' : Buffers) : Prop where
  /-- The dividends begin with the dividends. -/
  dividends : b.dividends <+: b'.dividends
  /-- The divisors begin with the divisors. -/
  divisors : b.divisors <+: b'.divisors
  /-- The quotients begin with the quotients. -/
  quotients : b.quotients <+: b'.quotients
  /-- The remainders begin with the remainders. -/
  remainders : b.remainders <+: b'.remainders

theorem begins_append (b b' : Buffers) : b.Begins (b ++ b') :=
  ⟨List.prefix_append _ _, List.prefix_append _ _, List.prefix_append _ _, List.prefix_append _ _⟩

variable {σ : Type} [Source σ] {kind : DivisorType} {trial : Trial}

/-- The buffers that a source fills, so many words in each. -/
def filled (kind : DivisorType) (size : Nat) (source : σ) : Buffers :=
  ⟨(List.range size).map fun i => drawAt source (2 * i),
    (List.range size).map fun i => kind.shape (drawAt source (2 * i + 1)),
    List.replicate size 0, List.replicate size 0⟩

theorem drawFrom_eq_filled (source : σ) (hcap : trial.bufferSize.toNat < Count.capacity) :
    drawFrom trial source = .ok (filled trial.divisorType trial.bufferSize.toNat source,
      advance (2 * trial.bufferSize.toNat) source) :=
  drawFrom_eq source hcap

theorem level_filled (size : Nat) (source : σ) : (filled kind size source).Level size where
  dividends := (List.length_map _).trans List.length_range
  divisors := (List.length_map _).trans List.length_range
  quotients := List.length_replicate
  remainders := List.length_replicate

/-- Images of the first places, in two parts: behind the first part, places are counted anew. -/
theorem map_range_add {α : Type} {f g : Nat → α} {n : Nat} (h : ∀ i, g i = f (n + i)) (m : Nat) :
    (List.range (n + m)).map f = (List.range n).map f ++ (List.range m).map g := by
  rw [List.range_add, List.map_append, List.map_map]
  exact congrArg _ (List.map_congr_left fun i _ => (h i).symm)

/-- **What a source fills can be filled in parts**, the second from where the first has left the
source. -/
theorem filled_add (n m : Nat) (source : σ) :
    filled kind (n + m) source =
      filled kind n source ++ filled kind m (advance (2 * n) source) := by
  have hplace (k i : Nat) :
      drawAt (advance (2 * n) source) (2 * i + k) = drawAt source (2 * (n + i) + k) := by
    rw [drawAt_advance, Nat.mul_add, Nat.add_assoc]
  refine (mk.injEq ..).mpr ⟨?_, ?_, ?_, ?_⟩
  · exact map_range_add (hplace 0) m
  · exact map_range_add (fun i => congrArg kind.shape (hplace 1 i)) m
  · exact List.replicate_append_replicate.symm
  · exact List.replicate_append_replicate.symm

/-- A shorter draw is what a longer one begins with. -/
theorem filled_begins {n m : Nat} (h : n ≤ m) (source : σ) :
    (filled kind n source).Begins (filled kind m source) := by
  obtain ⟨k, rfl⟩ := Nat.exists_eq_add_of_le h
  rw [filled_add]
  exact begins_append _ _

/-- What the fixed seed fills. -/
theorem generate_eq_filled (hcap : trial.bufferSize.toNat < Count.capacity) :
    generate trial =
      .ok (filled trial.divisorType trial.bufferSize.toNat (Seeded.ofSeed seed)) := by
  rw [generate, drawFrom_eq_filled _ hcap]
  rfl

/-- Sizes of buffers that can be kept are added without a carry. -/
theorem toNat_add_of_lt_capacity {n m : UInt64} (h : n.toNat + m.toNat < Count.capacity) :
    (n + m).toNat = n.toNat + m.toNat := by
  rw [Count.capacity] at h
  rw [UInt64.toNat_add]
  omega

/-- The operands that a script fills are words of its list. -/
theorem getElem?_filled_of_script {script : Script} {values : List Int64}
    (hdraws : ∀ k, values[k % values.length]? = some (drawAt script k)) {size i : Nat}
    (hi : i < size) :
    (filled kind size script).dividends[i]? = values[2 * i % values.length]? ∧
      (filled kind size script).divisors[i]? =
        values[(2 * i + 1) % values.length]?.map kind.shape := by
  rw [hdraws, hdraws, filled]
  constructor
  · rw [List.getElem?_map, List.getElem?_range hi]
    rfl
  · rw [List.getElem?_map, List.getElem?_range hi]
    rfl

/-- **Operands can be drawn in parts.** Pairs that are drawn after others are the last ones of a
single draw, which leaves the source in the same state, two draws for each pair on; and the
dividends are the same for every divisor type. So the operands of a trial are what those of a longer
trial of its type begin with. From a script, operands are the words of its list, over and over. -/
theorem drawFrom_in_parts :
    (∀ (σ : Type) [Source σ] (source : σ) (kind : DivisorType) (n m : UInt64),
      n.toNat + m.toNat < Count.capacity → ∃ first second whole : Buffers,
        drawFrom ⟨kind, n⟩ source = .ok (first, advance (2 * n.toNat) source) ∧
        drawFrom ⟨kind, m⟩ (advance (2 * n.toNat) source) =
          .ok (second, advance (2 * (n.toNat + m.toNat)) source) ∧
        drawFrom ⟨kind, n + m⟩ source = .ok (whole, advance (2 * (n.toNat + m.toNat)) source) ∧
        first.Level n.toNat ∧ second.Level m.toNat ∧ whole = first ++ second ∧
        ∀ other : DivisorType, ∃ b, drawFrom ⟨other, n + m⟩ source =
          .ok (b, advance (2 * (n.toNat + m.toNat)) source) ∧ b.dividends = whole.dividends) ∧
      (∀ (kind : DivisorType) (n m : UInt64), n ≤ m → m.toNat < Count.capacity →
        ∃ b b', generate ⟨kind, n⟩ = .ok b ∧ generate ⟨kind, m⟩ = .ok b' ∧ b.Begins b') ∧
      ∀ values : List Int64, values ≠ [] → ∃ script, Script.ofList values = .ok script ∧
        (∀ k, values[k % values.length]? = some (drawAt script k)) ∧
        ∀ trial : Trial, trial.bufferSize.toNat < Count.capacity → ∃ b reached,
          drawFrom trial script = .ok (b, reached) ∧ ∀ i < trial.bufferSize.toNat,
            b.dividends[i]? = values[2 * i % values.length]? ∧
            b.divisors[i]? = values[(2 * i + 1) % values.length]?.map trial.divisorType.shape := by
  refine ⟨?_, fun kind n m hle hcap => ?_, fun values hne => ?_⟩
  · intro σ _ source kind n m hcap
    have hwhole (other : DivisorType) : drawFrom ⟨other, n + m⟩ source =
        .ok (filled other (n.toNat + m.toNat) source,
          advance (2 * (n.toNat + m.toNat)) source) := by
      rw [← toNat_add_of_lt_capacity hcap]
      exact drawFrom_eq_filled source (by rw [toNat_add_of_lt_capacity hcap]; exact hcap)
    have hsecond : drawFrom ⟨kind, m⟩ (advance (2 * n.toNat) source) =
        .ok (filled kind m.toNat (advance (2 * n.toNat) source),
          advance (2 * (n.toNat + m.toNat)) source) := by
      rw [Nat.mul_add, Source.advance_add]
      exact drawFrom_eq_filled _ (Nat.lt_of_le_of_lt (Nat.le_add_left _ _) hcap)
    exact ⟨_, _, _, drawFrom_eq_filled source (Nat.lt_of_le_of_lt (Nat.le_add_right _ _) hcap),
      hsecond, hwhole kind, level_filled _ source, level_filled _ _, filled_add _ _ source,
      fun other => ⟨_, hwhole other, rfl⟩⟩
  · have hle : n.toNat ≤ m.toNat := UInt64.le_iff_toNat_le.mp hle
    exact ⟨_, _, generate_eq_filled (Nat.lt_of_le_of_lt hle hcap), generate_eq_filled hcap,
      filled_begins hle _⟩
  · obtain ⟨script, hscript, hvalues, hcursor⟩ := Script.exists_ofList hne
    have hdraws := Script.getElem?_eq_some_drawAt hvalues hcursor
    exact ⟨script, hscript, hdraws, fun trial hcap =>
      ⟨_, _, drawFrom_eq_filled script hcap, fun i hi => getElem?_filled_of_script hdraws hi⟩⟩

/-- The list has an odd number of words, so a second part begins in the middle of it. -/
theorem drawFrom_in_parts_of_script :
    (2 : UInt64).toNat + (1 : UInt64).toNat < Count.capacity ∧ (2 : UInt64) ≤ 3 ∧
      ([5, 0, -7] : List Int64) ≠ [] ∧
      (∃ script first second, Script.ofList [5, 0, -7] = .ok script ∧
        drawFrom ⟨.positive, 2⟩ script = .ok (first, advance 4 script) ∧
        drawFrom ⟨.positive, 1⟩ (advance 4 script) = .ok (second, advance 6 script) ∧
        drawFrom ⟨.positive, 3⟩ script = .ok (first ++ second, advance 6 script) ∧
        first = ⟨[5, -7], [1, 5], [0, 0], [0, 0]⟩ ∧ second = ⟨[0], [7], [0], [0]⟩ ∧
        ([5, 0, -7] : List Int64)[7 % 3]? = some (drawAt script 7)) ∧
      ∃ b b', generate ⟨.mixed, 2⟩ = .ok b ∧ generate ⟨.mixed, 3⟩ = .ok b' ∧ b.Begins b' := by
  obtain ⟨hparts, hbegins, hscripts⟩ := drawFrom_in_parts
  obtain ⟨script, hscript, hdraws, -⟩ := hscripts [5, 0, -7] (by decide)
  obtain ⟨first, second, whole, hfirst, hsecond, hwhole, -, -, rfl, -⟩ :=
    hparts Script script .positive 2 1 (by decide)
  obtain rfl : (⟨#[5, 0, -7], 0, by decide⟩ : Script) = script := Except.ok.inj hscript
  refine ⟨by decide, by decide, by decide, ⟨_, first, second, hscript, hfirst, hsecond, hwhole,
    ?_, ?_, hdraws 7⟩, hbegins .mixed 2 3 (by decide) (by decide)⟩
  · exact (congrArg Prod.fst (Except.ok.inj hfirst)).symm
  · exact (congrArg Prod.fst (Except.ok.inj hsecond)).symm

end Buffers

end DivisionBenchmark

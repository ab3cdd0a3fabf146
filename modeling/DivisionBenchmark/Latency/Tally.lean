import DivisionBenchmark.Count

/-!
# Tallies

How often each of some numbers was met. A tally keeps the numbers it has met in ascending order,
each with a positive count; counts stop at the greatest 64-bit value.

Main definitions:

* `DivisionBenchmark.Tally`: the tallies;
* `DivisionBenchmark.Tally.count`: how often a number was met, which is the view of a tally;
* `DivisionBenchmark.Tally.add`, `DivisionBenchmark.Tally.merge`: meeting a number more often, and
  putting two tallies together;
* `DivisionBenchmark.Tally.total`: how many numbers were met.

Main statements: a tally is known by its counts (`ext_count`), and both operations do to the counts
what their names say (`count_add`, `count_merge`).
-/

namespace DivisionBenchmark

/-- **How often each of some numbers was met.** -/
@[ext] structure Tally where
  /-- The numbers that were met, with their counts. -/
  entries : List (Nat × Nat)
  /-- The numbers ascend. -/
  ascending : entries.Pairwise fun a b => a.1 < b.1
  /-- Only numbers that were met are listed. -/
  positive : ∀ e ∈ entries, 0 < e.2
  deriving DecidableEq

namespace Tally

/-- Nothing was met. -/
def empty : Tally := ⟨[], List.Pairwise.nil, by simp⟩

instance : Inhabited Tally := ⟨empty⟩

/-- The count of a number among ascending entries. -/
def countIn (number : Nat) : List (Nat × Nat) → Nat
  | [] => 0
  | (k, n) :: rest => if number = k then n else countIn number rest

/-- How often a number was met. -/
def count (t : Tally) (number : Nat) : Nat := countIn number t.entries

/-! ### Adding -/

/-- Ascending entries with a count added to a number. -/
def insert (number n : Nat) : List (Nat × Nat) → List (Nat × Nat)
  | [] => [(number, Count.saturatingAdd 0 n)]
  | (k, m) :: rest =>
    if number < k then (number, Count.saturatingAdd 0 n) :: (k, m) :: rest
    else if number = k then (k, Count.saturatingAdd m n) :: rest
    else (k, m) :: insert number n rest

theorem fst_mem_insert {number n : Nat} {entries : List (Nat × Nat)} {e : Nat × Nat}
    (h : e ∈ insert number n entries) : e.1 = number ∨ ∃ e' ∈ entries, e'.1 = e.1 := by
  induction entries with
  | nil =>
    rw [insert, List.mem_singleton] at h
    exact Or.inl (by rw [h])
  | cons head rest ih =>
    obtain ⟨k, m⟩ := head
    rw [insert] at h
    split at h
    · rcases List.mem_cons.mp h with rfl | h
      · exact Or.inl rfl
      · exact Or.inr ⟨e, h, rfl⟩
    · split at h
      · rcases List.mem_cons.mp h with rfl | h
        · exact Or.inr ⟨_, List.mem_cons_self, rfl⟩
        · exact Or.inr ⟨e, List.mem_cons_of_mem _ h, rfl⟩
      · rcases List.mem_cons.mp h with rfl | h
        · exact Or.inr ⟨_, List.mem_cons_self, rfl⟩
        · rcases ih h with h | ⟨e', he', h⟩
          · exact Or.inl h
          · exact Or.inr ⟨e', List.mem_cons_of_mem _ he', h⟩

theorem ascending_insert {number n : Nat} {entries : List (Nat × Nat)}
    (h : entries.Pairwise fun a b => a.1 < b.1) :
    (insert number n entries).Pairwise fun a b => a.1 < b.1 := by
  induction entries with
  | nil => exact List.pairwise_singleton _ _
  | cons head rest ih =>
    obtain ⟨k, m⟩ := head
    have hrest := List.pairwise_cons.mp h
    rw [insert]
    split
    · rename_i hlt
      refine List.pairwise_cons.mpr ⟨fun e he => ?_, h⟩
      rcases List.mem_cons.mp he with rfl | he
      · exact hlt
      · exact Nat.lt_trans hlt (hrest.1 e he)
    · split
      · exact List.pairwise_cons.mpr ⟨hrest.1, hrest.2⟩
      · rename_i hnlt hne
        refine List.pairwise_cons.mpr ⟨fun e he => ?_, ih hrest.2⟩
        rcases fst_mem_insert he with h | ⟨e', he', h⟩
        · rw [h]
          show k < number
          omega
        · rw [← h]
          exact hrest.1 e' he'

theorem saturatingAdd_pos {m n : Nat} (hn : 0 < n) : 0 < Count.saturatingAdd m n := by
  unfold Count.saturatingAdd
  have : 0 < Count.bound - 1 := by decide
  omega

theorem positive_insert {number n : Nat} {entries : List (Nat × Nat)} (hn : 0 < n)
    (h : ∀ e ∈ entries, 0 < e.2) : ∀ e ∈ insert number n entries, 0 < e.2 := by
  induction entries with
  | nil =>
    intro e he
    rw [insert, List.mem_singleton] at he
    rw [he]
    exact saturatingAdd_pos hn
  | cons head rest ih =>
    obtain ⟨k, m⟩ := head
    intro e he
    rw [insert] at he
    split at he
    · rcases List.mem_cons.mp he with rfl | he
      · exact saturatingAdd_pos hn
      · exact h e he
    · split at he
      · rcases List.mem_cons.mp he with rfl | he
        · exact saturatingAdd_pos hn
        · exact h e (List.mem_cons_of_mem _ he)
      · rcases List.mem_cons.mp he with rfl | he
        · exact h _ List.mem_cons_self
        · exact ih (fun e he => h e (List.mem_cons_of_mem _ he)) e he

/-- **A tally that met a number so many times more.** -/
def add (t : Tally) (number n : Nat) : Tally :=
  if hn : 0 < n then
    ⟨insert number n t.entries, ascending_insert t.ascending, positive_insert hn t.positive⟩
  else t

/-- **Two tallies put together.** -/
def merge (t other : Tally) : Tally :=
  other.entries.foldl (fun t (number, n) => t.add number n) t

/-- How many numbers were met, at most the greatest 64-bit value. -/
def total (t : Tally) : Nat :=
  min (t.entries.foldr (fun entry sum => entry.2 + sum) 0) (Count.bound - 1)

/-- Whether no number was met. -/
def isEmpty (t : Tally) : Bool := t.entries.isEmpty

/-! ### Counts -/

/-- A number below all entries was not met. -/
theorem countIn_eq_zero {number : Nat} {entries : List (Nat × Nat)}
    (h : ∀ e ∈ entries, number < e.1) : countIn number entries = 0 := by
  induction entries with
  | nil => rfl
  | cons head rest ih =>
    obtain ⟨k, m⟩ := head
    have hk : number < k := h _ List.mem_cons_self
    rw [countIn, if_neg (by omega), ih fun e he => h e (List.mem_cons_of_mem _ he)]

theorem countIn_insert {number n : Nat} {entries : List (Nat × Nat)} (k : Nat)
    (h : entries.Pairwise fun a b => a.1 < b.1) :
    countIn k (insert number n entries) =
      if k = number then Count.saturatingAdd (countIn k entries) n else countIn k entries := by
  induction entries with
  | nil => rfl
  | cons head rest ih =>
    obtain ⟨j, m⟩ := head
    have hrest := List.pairwise_cons.mp h
    rw [insert]
    split
    · rename_i hlt
      rw [countIn]
      split
      · rename_i hk
        rw [hk, countIn_eq_zero]
        intro e he
        rcases List.mem_cons.mp he with rfl | he
        · exact hlt
        · exact Nat.lt_trans hlt (hrest.1 e he)
      · rfl
    · split
      · rename_i hj
        rw [countIn, countIn, hj]
        split <;> rfl
      · rename_i hj
        rw [countIn, countIn, ih hrest.2]
        by_cases hk : k = j
        · rw [if_pos hk, if_pos hk, if_neg (by omega)]
        · rw [if_neg hk, if_neg hk]

@[simp] theorem count_add (t : Tally) (number n k : Nat) :
    (t.add number n).count k =
      if k = number ∧ 0 < n then Count.saturatingAdd (t.count k) n else t.count k := by
  unfold add
  split
  · rename_i hn
    rw [count, countIn_insert k t.ascending]
    simp only [hn, and_true, count]
  · rename_i hn
    simp only [hn, and_false, if_false]

/-- The entries of a tally are the numbers with a positive count. -/
theorem mem_entries_iff {t : Tally} {number n : Nat} :
    (number, n) ∈ t.entries ↔ 0 < n ∧ t.count number = n := by
  obtain ⟨entries, ascending, positive⟩ := t
  show (number, n) ∈ entries ↔ 0 < n ∧ countIn number entries = n
  induction entries with
  | nil =>
    simp only [List.not_mem_nil, countIn, false_iff, not_and]
    intro h h'
    omega
  | cons head rest ih =>
    obtain ⟨k, m⟩ := head
    have hrest := List.pairwise_cons.mp ascending
    have ih := ih hrest.2 fun e he => positive e (List.mem_cons_of_mem _ he)
    rw [List.mem_cons, Prod.mk.injEq, countIn]
    by_cases hk : number = k
    · subst hk
      have hm : 0 < m := positive _ List.mem_cons_self
      simp only [true_and, if_true]
      constructor
      · rintro (rfl | h)
        · exact ⟨hm, rfl⟩
        · exact absurd (hrest.1 _ h) (Nat.lt_irrefl _)
      · rintro ⟨-, rfl⟩
        exact Or.inl rfl
    · simp only [hk, false_and, false_or, if_false, ih]

/-- Ascending lists with the same members are the same. -/
theorem eq_of_mem_iff {l l' : List (Nat × Nat)} (h : l.Pairwise fun a b => a.1 < b.1)
    (h' : l'.Pairwise fun a b => a.1 < b.1) (hmem : ∀ e, e ∈ l ↔ e ∈ l') : l = l' := by
  induction l generalizing l' with
  | nil =>
    cases l' with
    | nil => rfl
    | cons b l' => exact absurd ((hmem b).mpr List.mem_cons_self) List.not_mem_nil
  | cons a l ih =>
    cases l' with
    | nil => exact absurd ((hmem a).mp List.mem_cons_self) List.not_mem_nil
    | cons b l' =>
      have ha := List.pairwise_cons.mp h
      have hb := List.pairwise_cons.mp h'
      have hab : a = b := by
        rcases List.mem_cons.mp ((hmem a).mp List.mem_cons_self) with e | hmem₁
        · exact e
        · rcases List.mem_cons.mp ((hmem b).mpr List.mem_cons_self) with e | hmem₂
          · exact e.symm
          · have h₁ := hb.1 a hmem₁
            have h₂ := ha.1 b hmem₂
            omega
      subst hab
      rw [ih ha.2 hb.2 fun e => ?_]
      have he := hmem e
      rw [List.mem_cons, List.mem_cons] at he
      constructor
      · intro hel
        rcases he.mp (Or.inr hel) with rfl | h
        · exact absurd (ha.1 _ hel) (Nat.lt_irrefl _)
        · exact h
      · intro hel
        rcases he.mpr (Or.inr hel) with rfl | h
        · exact absurd (hb.1 _ hel) (Nat.lt_irrefl _)
        · exact h

/-- **A tally is known by its counts.** -/
theorem ext_count {t t' : Tally} (h : ∀ k, t.count k = t'.count k) : t = t' := by
  apply Tally.ext
  apply eq_of_mem_iff t.ascending t'.ascending
  rintro ⟨k, n⟩
  rw [mem_entries_iff, mem_entries_iff, h]

theorem count_foldl_add (entries : List (Nat × Nat)) (t : Tally) (k : Nat)
    (h : entries.Pairwise fun a b => a.1 < b.1) (hpos : ∀ e ∈ entries, 0 < e.2) :
    (entries.foldl (fun t (number, n) => t.add number n) t).count k =
      if 0 < countIn k entries then Count.saturatingAdd (t.count k) (countIn k entries)
      else t.count k := by
  induction entries generalizing t with
  | nil => simp [countIn]
  | cons head rest ih =>
    obtain ⟨j, m⟩ := head
    have hrest := List.pairwise_cons.mp h
    have hm : 0 < m := hpos _ List.mem_cons_self
    rw [List.foldl_cons, ih _ hrest.2 fun e he => hpos e (List.mem_cons_of_mem _ he), countIn]
    by_cases hk : k = j
    · subst hk
      have hzero : countIn k rest = 0 := countIn_eq_zero fun e he => hrest.1 e he
      simp [hzero, hm]
    · simp [hk]

/-- Putting tallies together adds their counts. -/
theorem count_merge (t other : Tally) (k : Nat) :
    (t.merge other).count k =
      if 0 < other.count k then Count.saturatingAdd (t.count k) (other.count k)
      else t.count k :=
  count_foldl_add other.entries t k other.ascending other.positive

end Tally

end DivisionBenchmark

import DivisionBenchmark.Text.Blank
import DivisionBenchmark.Text.Numeral
import Mathlib.Data.List.TakeWhile

/-!
# Numerals and blanks

Which texts are numerals, told apart from how they are read. A numeral is one or more ASCII digits
with at most one plus sign before them, and the number they stand for fits in 64 bits
(`DivisionBenchmark.Text.Numeral`). These are the texts that are read, and as this number
(`DivisionBenchmark.Text.readCount_eq_ok_iff`); among them is what a count is written as
(`DivisionBenchmark.Text.numeral_toDigits`).

No character of a numeral is a blank, so trimming takes the blanks around a numeral and nothing else
(`DivisionBenchmark.Text.trim_of_numeral`).
-/

namespace DivisionBenchmark.Text

/-! ### Numerals -/

/-- **Digits of a number** of at most 64 bits: one at least. -/
structure Digits (digits : List Char) (n : Nat) : Prop where
  /-- There is a digit. -/
  ne_nil : digits ≠ []
  /-- There is nothing but ASCII digits. -/
  isDigit : ∀ c ∈ digits, c.isDigit
  /-- They stand for the number. -/
  value_eq : value 0 digits = n
  /-- The number fits. -/
  lt : n < numeralBound

/-- **A numeral of a number**: its digits, with one plus sign before them or with none. -/
inductive Numeral : List Char → Nat → Prop where
  /-- Digits alone. -/
  | plain {digits : List Char} {n : Nat} (h : Digits digits n) : Numeral digits n
  /-- Digits behind a sign. -/
  | signed {digits : List Char} {n : Nat} (h : Digits digits n) : Numeral ('+' :: digits) n

theorem digits_iff_readDigits {digits : List Char} {n : Nat} :
    Digits digits n ↔ digits ≠ [] ∧ readDigits 0 digits = .ok n := by
  rw [readDigits_eq_ok_iff (by decide)]
  constructor
  · rintro ⟨hne, hdigit, hvalue, hlt⟩
    exact ⟨hne, hdigit, hvalue, hlt⟩
  · rintro ⟨hne, hdigit, hvalue, hlt⟩
    exact ⟨hne, hdigit, hvalue, hlt⟩

theorem not_digits_plus (digits : List Char) (n : Nat) : ¬ Digits ('+' :: digits) n := fun h =>
  absurd (h.isDigit '+' List.mem_cons_self) (by decide)

/-- **What is read as a count is a numeral**, and is read as its number. -/
theorem readCount_eq_ok_iff {cs : List Char} {n : Nat} : readCount cs = .ok n ↔ Numeral cs n := by
  constructor
  · intro h
    unfold readCount at h
    split at h
    · cases h
    · exact .plain (digits_iff_readDigits.mpr ⟨by simp, h⟩)
    · rename_i digits hne
      exact .signed (digits_iff_readDigits.mpr ⟨hne, h⟩)
    · rename_i hne _ _
      exact .plain (digits_iff_readDigits.mpr ⟨hne, h⟩)
  · rintro (hdigits | hdigits)
    · obtain ⟨hne, hread⟩ := digits_iff_readDigits.mp hdigits
      unfold readCount
      split
      · exact absurd rfl hne
      · exact hread
      · exact absurd hdigits (not_digits_plus _ _)
      · exact hread
    · obtain ⟨hne, hread⟩ := digits_iff_readDigits.mp hdigits
      rename_i digits
      cases digits with
      | nil => exact absurd rfl hne
      | cons c cs => exact hread

/-- Every count is written as a numeral. -/
theorem numeral_toDigits {n : Nat} (hn : n < numeralBound) : Numeral (Nat.toDigits 10 n) n :=
  .plain ⟨Nat.toDigits_ne_nil,
    fun _ hc => Nat.isDigit_of_mem_toDigits (by decide) (by decide) hc,
    Nat.ofDigitChars_toDigits (by decide) (by decide), hn⟩

namespace Numeral

variable {cs : List Char} {n : Nat}

theorem lt (h : Numeral cs n) : n < numeralBound := by
  cases h with
  | plain h => exact h.lt
  | signed h => exact h.lt

/-- A numeral is made of digits and of the sign. -/
theorem eq_plus_or_isDigit (h : Numeral cs n) {c : Char} (hc : c ∈ cs) : c = '+' ∨ c.isDigit := by
  cases h with
  | plain h => exact Or.inr (h.isDigit c hc)
  | signed h => exact (List.mem_cons.mp hc).imp id (h.isDigit c)

theorem notMem (h : Numeral cs n) {c : Char} (hplus : c ≠ '+') (hdigit : c.isDigit = false) :
    c ∉ cs := fun hc => by
  rcases h.eq_plus_or_isDigit hc with rfl | hd
  · exact hplus rfl
  · rw [hdigit] at hd
    cases hd

end Numeral

/-! ### Blanks -/

theorem isDigit_iff {c : Char} : c.isDigit = true ↔ 48 ≤ c.toNat ∧ c.toNat ≤ 57 := by
  simp [Char.isDigit, UInt32.le_iff_toNat_le]

/-- No digit is a blank. -/
theorem isBlank_of_isDigit {c : Char} (h : c.isDigit) : isBlank c = false := by
  have := isDigit_iff.mp h
  simp only [isBlank, Bool.or_eq_false_iff, Bool.and_eq_false_iff, decide_eq_false_iff_not,
    beq_eq_false_iff_ne]
  omega

theorem Numeral.isBlank_eq_false {cs : List Char} {n : Nat} (h : Numeral cs n) {c : Char}
    (hc : c ∈ cs) : isBlank c = false := by
  rcases h.eq_plus_or_isDigit hc with rfl | hdigit
  · rfl
  · exact isBlank_of_isDigit hdigit

/-- A text is what trimming leaves of it, between blanks. -/
theorem exists_eq_append_trim (cs : List Char) : ∃ before after, cs = before ++ trim cs ++ after ∧
    (∀ c ∈ before, isBlank c) ∧ ∀ c ∈ after, isBlank c := by
  have hend (text : List Char) :
      text = trimEnd text ++ (text.reverse.takeWhile isBlank).reverse := by
    rw [trimEnd, ← List.reverse_append, List.takeWhile_append_dropWhile, List.reverse_reverse]
  refine ⟨cs.takeWhile isBlank, ((cs.dropWhile isBlank).reverse.takeWhile isBlank).reverse, ?_,
    fun c hc => List.mem_takeWhile_imp hc,
    fun c hc => List.mem_takeWhile_imp (List.mem_reverse.mp hc)⟩
  rw [List.append_assoc, trim, ← hend, List.takeWhile_append_dropWhile]

/-- Blanks at the end of a text do not count. -/
theorem trimEnd_append {gap : List Char} (hgap : ∀ c ∈ gap, isBlank c) (cs : List Char) :
    trimEnd (cs ++ gap) = trimEnd cs := by
  rw [trimEnd, List.reverse_append, List.dropWhile_append_of_pos, trimEnd]
  exact fun c hc => hgap c (List.mem_reverse.mp hc)

/-- **Blanks around a text do not count.** -/
theorem trim_padded {left right : List Char} (hleft : ∀ c ∈ left, isBlank c)
    (hright : ∀ c ∈ right, isBlank c) (cs : List Char) : trim (left ++ cs ++ right) = trim cs := by
  rw [trim, List.append_assoc, List.dropWhile_append_of_pos hleft, List.dropWhile_append, trim]
  split
  · rename_i hempty
    rw [List.isEmpty_iff.mp hempty, List.dropWhile_eq_nil_iff.mpr hright]
  · exact trimEnd_append hright _

/-- There is nothing to trim around a numeral. -/
theorem trim_of_numeral {cs : List Char} {n : Nat} (h : Numeral cs n) : trim cs = cs :=
  trim_eq_self (fun _ hc => h.isBlank_eq_false (List.mem_of_head? hc))
    fun _ hc => h.isBlank_eq_false (List.mem_of_getLast? hc)

/-- Blanks behind a numeral do not count. -/
theorem Numeral.trim_append {cs gap : List Char} {n : Nat} (h : Numeral cs n)
    (hgap : ∀ c ∈ gap, isBlank c) : trim (cs ++ gap) = cs := by
  have hpadded : trim ([] ++ cs ++ gap) = trim cs := trim_padded (List.forall_mem_nil _) hgap cs
  exact hpadded.trans (trim_of_numeral h)

end DivisionBenchmark.Text

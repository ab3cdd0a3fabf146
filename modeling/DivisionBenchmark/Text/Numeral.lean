/-!
# Numerals

The reader of 64-bit counts in decimal: an optional plus sign and one or more ASCII digits. It
reads from the left and reports the first thing that is wrong, be it a character that is no digit
or a digit with which the number no longer fits.

Main definitions:

* `DivisionBenchmark.Text.NumeralError`: what can be wrong;
* `DivisionBenchmark.Text.readDigits`, `DivisionBenchmark.Text.readCount`: the readers;
* `DivisionBenchmark.Text.value`: the number a run of digits stands for;
* `DivisionBenchmark.Text.hexValue`: the number a hexadecimal digit stands for.

Main statement: `readDigits_eq_ok_iff`, a run of characters is read exactly where all of them are
digits and the number they stand for fits, and is read as that number.
-/

namespace DivisionBenchmark.Text

/-- **What is wrong with a numeral.** -/
inductive NumeralError where
  /-- There is nothing to read. -/
  | empty
  /-- A character is no digit. -/
  | invalidDigit
  /-- The number does not fit in 64 bits. -/
  | tooLarge
  deriving DecidableEq, Repr

/-- The text an error in a numeral is reported with. -/
def NumeralError.message : NumeralError → String
  | .empty => "cannot parse integer from empty string"
  | .invalidDigit => "invalid digit found in string"
  | .tooLarge => "number too large to fit in target type"

/-- The value of a decimal digit. -/
def digitValue (c : Char) : Nat := c.toNat - 48

/-- The number that a hexadecimal digit stands for. -/
def hexValue (c : Char) : Nat :=
  if c.isDigit then c.toNat - 48 else c.toLower.toNat - 87

/-- Whether a character is a hexadecimal digit. -/
def isHexDigit (c : Char) : Bool :=
  c.isDigit || ('a' ≤ c && c ≤ 'f') || ('A' ≤ c && c ≤ 'F')

/-- The number that digits stand for, after those that stand for `high`. -/
def value (high : Nat) (digits : List Char) : Nat :=
  digits.foldl (fun n c => 10 * n + digitValue c) high

/-- Numbers from here on, two to the 64, do not fit. -/
def numeralBound : Nat := 18446744073709551616

/-- Reads digits after those that stand for `high`. -/
def readDigits (high : Nat) : List Char → Except NumeralError Nat
  | [] => .ok high
  | c :: cs =>
    if c.isDigit then
      let n := 10 * high + digitValue c
      if n < numeralBound then readDigits n cs else .error .tooLarge
    else .error .invalidDigit

/-- **Reads a count.** A sign alone is not a numeral. -/
def readCount : List Char → Except NumeralError Nat
  | [] => .error .empty
  | [c] => readDigits 0 [c]
  | '+' :: cs => readDigits 0 cs
  | cs => readDigits 0 cs

/-! ### What is read -/

theorem le_value (high : Nat) (digits : List Char) : high ≤ value high digits := by
  induction digits generalizing high with
  | nil => exact Nat.le_refl high
  | cons c cs ih =>
    have := ih (10 * high + digitValue c)
    simp only [value, List.foldl_cons] at this ⊢
    omega

/-- A run of characters is read exactly where all of them are digits and the number they stand for
fits, and then it is read as that number. -/
theorem readDigits_eq_ok_iff {high n : Nat} {cs : List Char} (hhigh : high < numeralBound) :
    readDigits high cs = .ok n ↔
      (∀ c ∈ cs, c.isDigit) ∧ value high cs = n ∧ n < numeralBound := by
  induction cs generalizing high with
  | nil =>
    simp only [readDigits, value, List.foldl_nil, Except.ok.injEq, List.not_mem_nil,
      false_implies, implies_true, true_and]
    constructor
    · rintro rfl; exact ⟨rfl, hhigh⟩
    · exact fun h => h.1
  | cons c cs ih =>
    have hvalue : value high (c :: cs) = value (10 * high + digitValue c) cs := rfl
    rw [readDigits, hvalue]
    by_cases hc : c.isDigit
    · by_cases hn : 10 * high + digitValue c < numeralBound
      · simp only [hc, if_true, hn, ih hn, List.mem_cons, forall_eq_or_imp, true_and]
      · have := le_value (10 * high + digitValue c) cs
        simp only [hc, if_true, hn, if_false, reduceCtorEq, false_iff]
        rintro ⟨-, h, h'⟩
        omega
    · simp [hc]

end DivisionBenchmark.Text

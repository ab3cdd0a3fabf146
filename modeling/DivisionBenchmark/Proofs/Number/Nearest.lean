import DivisionBenchmark.Number.Dyadic
import Mathlib.Algebra.Order.Field.Power
import Mathlib.Data.Rat.Floor
import Mathlib.Tactic.FieldSimp
import Mathlib.Tactic.Linarith

/-!
# Rounding to binary64 keeps order

A dyadic number stands for a rational one (`DivisionBenchmark.Dyadic.value`), and
`DivisionBenchmark.Dyadic.nearest` is told on these. The exponent it chooses is the one at which the
quotient has a significand of full precision (`DivisionBenchmark.Dyadic.lt_of_exponentOf`,
`DivisionBenchmark.Dyadic.le_of_exponentOf`); at one exponent rounding keeps order because rounding
to whole numbers does, and between two exponents there is a power of two.

* Rounding keeps order: `DivisionBenchmark.Dyadic.value_nearest_le`.
* Whole numbers up to `2 ^ 53` are rounded to themselves: `DivisionBenchmark.Dyadic.value_ofNat`.
* A product with a whole number keeps order in its first factor, and is at most the whole number
  where that factor is at most one: `DivisionBenchmark.Dyadic.value_mul_le_value_mul`,
  `DivisionBenchmark.Dyadic.value_mul_le`.
-/

namespace DivisionBenchmark

/-! ### Rounding a quotient -/

/-- A common factor does not change a rounded quotient. -/
theorem roundDiv_mul_mul (a b : ℕ) {c : ℕ} (hc : 0 < c) :
    roundDiv (a * c) (b * c) = roundDiv a b := by
  have hrest : a * c % (b * c) = a % b * c := Nat.mul_mod_mul_right c a b
  have hlt : 2 * (a % b * c) < b * c ↔ 2 * (a % b) < b := by
    rw [← mul_assoc]
    exact Nat.mul_lt_mul_right hc
  have hgt : b * c < 2 * (a % b * c) ↔ b < 2 * (a % b) := by
    rw [← mul_assoc]
    exact Nat.mul_lt_mul_right hc
  simp only [roundDiv, Nat.mul_div_mul_right a b hc, hrest, hlt, hgt]

/-- Rounding quotients keeps order, whatever they are quotients of. -/
theorem roundDiv_mono {a b a' b' : ℕ} (hb : 0 < b) (hb' : 0 < b')
    (h : (a : ℚ) / b ≤ a' / b') : roundDiv a b ≤ roundDiv a' b' := by
  have hcross : a * b' ≤ a' * b := by
    rw [div_le_div_iff₀ (by exact_mod_cast hb) (by exact_mod_cast hb')] at h
    exact_mod_cast h
  calc roundDiv a b = roundDiv (a * b') (b * b') := (roundDiv_mul_mul a b hb').symm
    _ ≤ roundDiv (a' * b) (b * b') := roundDiv_le_roundDiv hcross
    _ = roundDiv (a' * b) (b' * b) := by rw [mul_comm b b']
    _ = roundDiv a' b' := roundDiv_mul_mul a' b' hb

namespace Dyadic

/-! ### Powers of two -/

theorem two_zpow_pos (e : ℤ) : (0 : ℚ) < 2 ^ e := zpow_pos (by norm_num) e

theorem two_zpow_add (e e' : ℤ) : (2 : ℚ) ^ (e + e') = 2 ^ e * 2 ^ e' :=
  zpow_add₀ (by norm_num) e e'

theorem two_zpow_le {e e' : ℤ} (h : e ≤ e') : (2 : ℚ) ^ e ≤ 2 ^ e' :=
  zpow_le_zpow_right₀ (by norm_num) h

/-- A significand that is carried over has one bit less, at the next exponent. -/
theorem carry_eq (e : ℤ) : (2 : ℚ) ^ 53 * 2 ^ e = 2 ^ 52 * 2 ^ (e + 1) := by
  rw [two_zpow_add]
  ring

/-- **Between two exponents there is a power of two**: what has the lesser exponent is at most this,
and what has all the bits there are at the greater exponent is at least this. -/
theorem mul_two_zpow_le {s s' : ℕ} {e e' : ℤ} (hs : s ≤ 2 ^ 53) (hs' : 2 ^ 52 ≤ s')
    (h : e < e') : (s : ℚ) * 2 ^ e ≤ s' * 2 ^ e' := by
  have hupper : (s : ℚ) ≤ 2 ^ 53 := by exact_mod_cast hs
  have hlower : (2 : ℚ) ^ 52 ≤ s' := by exact_mod_cast hs'
  have hexponent := two_zpow_le (Int.add_one_le_of_lt h)
  calc (s : ℚ) * 2 ^ e ≤ 2 ^ 53 * 2 ^ e := by gcongr
    _ = 2 ^ 52 * 2 ^ (e + 1) := carry_eq e
    _ ≤ 2 ^ 52 * 2 ^ e' := by gcongr
    _ ≤ s' * 2 ^ e' := by gcongr

/-- A power of two over one is the power of the difference, on either side of zero. -/
theorem two_pow_toNat_div (e : ℤ) : (2 : ℚ) ^ e.toNat / 2 ^ (-e).toNat = 2 ^ e := by
  rw [← zpow_natCast, ← zpow_natCast, ← zpow_sub₀ (by norm_num : (2 : ℚ) ≠ 0)]
  congr 1
  omega

/-! ### Values -/

/-- **The number a dyadic number stands for.** -/
def value (x : Dyadic) : ℚ := x.significand * 2 ^ x.exponent

theorem value_nonneg (x : Dyadic) : 0 ≤ x.value :=
  mul_nonneg (Nat.cast_nonneg _) (zpow_nonneg (by norm_num) _)

theorem value_eq_zero_iff {x : Dyadic} : x.value = 0 ↔ x.significand = 0 := by
  rw [value, mul_eq_zero, Nat.cast_eq_zero]
  exact or_iff_left (zpow_ne_zero _ (by norm_num))

/-- The value is the numerator over the denominator. -/
theorem numerator_div_denominator (x : Dyadic) : (x.numerator : ℚ) / x.denominator = x.value := by
  have hnum : (x.numerator : ℚ) = x.significand * 2 ^ x.exponent.toNat := by
    exact_mod_cast (rfl : x.numerator = x.significand * 2 ^ x.exponent.toNat)
  have hden : (x.denominator : ℚ) = 2 ^ (-x.exponent).toNat := by
    exact_mod_cast (rfl : x.denominator = 2 ^ (-x.exponent).toNat)
  rw [hnum, hden, mul_div_assoc, two_pow_toNat_div, value]

/-- The order of dyadic numbers is that of their values. -/
theorem le_iff_value_le {x y : Dyadic} : x ≤ y ↔ x.value ≤ y.value := by
  have hx : (0 : ℚ) < x.denominator := by exact_mod_cast x.denominator_pos
  have hy : (0 : ℚ) < y.denominator := by exact_mod_cast y.denominator_pos
  rw [← numerator_div_denominator, ← numerator_div_denominator, div_le_div_iff₀ hx hy]
  exact_mod_cast Iff.rfl

/-- The least whole number that is not below a dyadic number is that of its value. -/
theorem ceil_eq (x : Dyadic) : x.ceil = ⌈x.value⌉₊ := by
  have hpos := x.denominator_pos
  have hden : (0 : ℚ) < x.denominator := by exact_mod_cast hpos
  have hle (n : ℕ) : x.ceil ≤ n ↔ x.value ≤ n := by
    have hnat : x.ceil ≤ n ↔ x.numerator ≤ n * x.denominator := by
      rw [ceil, ← Nat.lt_succ_iff, Nat.div_lt_iff_lt_mul hpos, Nat.succ_mul]
      omega
    rw [hnat, ← numerator_div_denominator, div_le_iff₀ hden]
    exact_mod_cast Iff.rfl
  exact le_antisymm ((hle _).mpr (Nat.le_ceil _)) (Nat.ceil_le.mpr ((hle _).mp le_rfl))

/-! ### The exponent of a quotient -/

variable {num den num' den' : ℕ}

/-- Scaling divides a quotient by a power of two. -/
theorem scaled_div (num den : ℕ) (e : ℤ) :
    (scaledNumerator num e : ℚ) / scaledDenominator den e = (num : ℚ) / den / 2 ^ e := by
  have hnum : (scaledNumerator num e : ℚ) = num * 2 ^ (-e).toNat := by
    exact_mod_cast (rfl : scaledNumerator num e = num * 2 ^ (-e).toNat)
  have hden : (scaledDenominator den e : ℚ) = den * 2 ^ e.toNat := by
    exact_mod_cast (rfl : scaledDenominator den e = den * 2 ^ e.toNat)
  rw [hnum, hden, ← two_pow_toNat_div e]
  have hpow (n : ℕ) : (2 : ℚ) ^ n ≠ 0 := pow_ne_zero n (by norm_num)
  rcases eq_or_ne (den : ℚ) 0 with hzero | hne
  · rw [hzero, zero_mul, div_zero, div_zero, zero_div]
  · field_simp

theorem scaledDenominator_pos (hden : 0 < den) (e : ℤ) : 0 < scaledDenominator den e :=
  Nat.mul_pos hden (Nat.two_pow_pos _)

/-- A number lies between the powers of two around its logarithm. -/
theorem log2_bounds {n : ℕ} (hn : 0 < n) :
    (2 : ℚ) ^ (n.log2 : ℤ) ≤ n ∧ (n : ℚ) < 2 ^ ((n.log2 : ℤ) + 1) := by
  constructor
  · rw [zpow_natCast]
    exact_mod_cast Nat.log2_self_le hn.ne'
  · rw [← Nat.cast_succ, zpow_natCast]
    exact_mod_cast Nat.lt_log2_self

/-- So a quotient lies between the powers of two around the difference of the logarithms. -/
theorem quotient_bounds (hnum : 0 < num) (hden : 0 < den) :
    (2 : ℚ) ^ ((num.log2 : ℤ) - den.log2 - 1) ≤ (num : ℚ) / den ∧
      (num : ℚ) / den < 2 ^ ((num.log2 : ℤ) - den.log2 + 1) := by
  have hpos : (0 : ℚ) < den := by exact_mod_cast hden
  obtain ⟨hnumle, hnumlt⟩ := log2_bounds hnum
  obtain ⟨hdenle, hdenlt⟩ := log2_bounds hden
  constructor
  · rw [le_div_iff₀ hpos]
    calc (2 : ℚ) ^ ((num.log2 : ℤ) - den.log2 - 1) * den
        ≤ 2 ^ ((num.log2 : ℤ) - den.log2 - 1) * 2 ^ ((den.log2 : ℤ) + 1) := by gcongr
      _ = 2 ^ (num.log2 : ℤ) := by rw [← two_zpow_add]; congr 1; omega
      _ ≤ num := hnumle
  · rw [div_lt_iff₀ hpos]
    calc (num : ℚ) < 2 ^ ((num.log2 : ℤ) + 1) := hnumlt
      _ = 2 ^ ((num.log2 : ℤ) - den.log2 + 1) * 2 ^ (den.log2 : ℤ) := by
          rw [← two_zpow_add]; congr 1; omega
      _ ≤ 2 ^ ((num.log2 : ℤ) - den.log2 + 1) * den := by gcongr

theorem minExponent_le_exponentOf (num den : ℕ) : minExponent ≤ exponentOf num den :=
  le_max_right _ _

/-- Before the limit of the format is looked at, the exponent is the one of full precision. -/
theorem exponentOf_eq_max (hnum : 0 < num) (hden : 0 < den) :
    ∃ e, exponentOf num den = max e minExponent ∧
      (2 : ℚ) ^ (52 + e) ≤ (num : ℚ) / den ∧ (num : ℚ) / den < 2 ^ (53 + e) := by
  obtain ⟨hle, hlt⟩ := quotient_bounds hnum hden
  have hlow (e : ℤ) : scaledNumerator num e < significandBound * scaledDenominator den e ↔
      (num : ℚ) / den < 2 ^ (53 + e) := by
    have hpos : (0 : ℚ) < scaledDenominator den e := by
      exact_mod_cast scaledDenominator_pos hden e
    rw [← Nat.cast_lt (α := ℚ), Nat.cast_mul, ← div_lt_iff₀ hpos, scaled_div,
      div_lt_iff₀ (two_zpow_pos e), two_zpow_add]
    norm_num [significandBound]
  simp only [exponentOf]
  by_cases hfits : (num : ℚ) / den < 2 ^ (53 + ((num.log2 : ℤ) - den.log2 - precision))
  · have hexponent : 52 + ((num.log2 : ℤ) - den.log2 - precision) = num.log2 - den.log2 - 1 := by
      unfold precision
      omega
    refine ⟨_, by rw [if_pos ((hlow _).mpr hfits)], ?_, hfits⟩
    rw [hexponent]
    exact hle
  · have hexponent : 52 + ((num.log2 : ℤ) - den.log2 - precision + 1) =
        53 + (num.log2 - den.log2 - precision) := by omega
    have hexponent' : 53 + ((num.log2 : ℤ) - den.log2 - precision + 1) =
        num.log2 - den.log2 + 1 := by
      unfold precision
      omega
    refine ⟨_, by rw [if_neg fun h => hfits ((hlow _).mp h)], ?_, ?_⟩
    · rw [hexponent]
      exact not_lt.mp hfits
    · rw [hexponent']
      exact hlt

/-- **The significand of a quotient has at most the bits there is room for.** -/
theorem lt_of_exponentOf (hnum : 0 < num) (hden : 0 < den) :
    (num : ℚ) / den / 2 ^ exponentOf num den < 2 ^ 53 := by
  obtain ⟨e, he, -, hlt⟩ := exponentOf_eq_max hnum hden
  rw [div_lt_iff₀ (two_zpow_pos _)]
  calc (num : ℚ) / den < 2 ^ (53 + e) := hlt
    _ ≤ 2 ^ (53 + exponentOf num den) := by
        rw [he]
        exact two_zpow_le (add_le_add_right (le_max_left _ _) _)
    _ = 2 ^ 53 * 2 ^ exponentOf num den := by
        rw [two_zpow_add]
        norm_num

/-- **It has all of them**, unless its exponent is the least of the format. -/
theorem le_of_exponentOf (hnum : 0 < num) (hden : 0 < den)
    (h : exponentOf num den ≠ minExponent) :
    (2 : ℚ) ^ 52 ≤ (num : ℚ) / den / 2 ^ exponentOf num den := by
  obtain ⟨e, he, hle, -⟩ := exponentOf_eq_max hnum hden
  have heq : exponentOf num den = e := by
    rcases max_choice e minExponent with hmax | hmax
    · rw [he, hmax]
    · exact absurd (he.trans hmax) h
  rw [heq, le_div_iff₀ (two_zpow_pos _)]
  calc (2 : ℚ) ^ 52 * 2 ^ e = 2 ^ (52 + e) := by
        rw [two_zpow_add]
        norm_num
    _ ≤ (num : ℚ) / den := hle

/-! ### Rounding -/

/-- The significand before a carry. -/
def rounded (num den : ℕ) : ℕ :=
  roundDiv (scaledNumerator num (exponentOf num den)) (scaledDenominator den (exponentOf num den))

/-- A carry does not change the value. -/
theorem value_nearest (hnum : 0 < num) :
    (nearest num den).value = rounded num den * 2 ^ exponentOf num den := by
  rw [nearest, if_neg hnum.ne']
  dsimp only
  split
  · rename_i hcarry
    have hrounded : rounded num den = significandBound := hcarry
    have hvalue := carry_eq (exponentOf num den)
    rw [value, hrounded]
    norm_num [leadingBit, significandBound] at hvalue ⊢
    exact hvalue.symm
  · rfl

theorem value_nearest_zero (den : ℕ) : (nearest 0 den).value = 0 := by
  rw [nearest, if_pos rfl, value, Nat.cast_zero, zero_mul]

theorem rounded_le (hnum : 0 < num) (hden : 0 < den) : rounded num den ≤ 2 ^ 53 := by
  have hpos := scaledDenominator_pos hden (exponentOf num den)
  rw [← roundDiv_mul (2 ^ 53) one_pos]
  refine roundDiv_mono hpos one_pos ?_
  rw [scaled_div, mul_one, Nat.cast_one, div_one]
  exact_mod_cast (lt_of_exponentOf hnum hden).le

theorem le_rounded (hnum : 0 < num) (hden : 0 < den) (h : exponentOf num den ≠ minExponent) :
    2 ^ 52 ≤ rounded num den := by
  have hpos := scaledDenominator_pos hden (exponentOf num den)
  rw [← roundDiv_mul (2 ^ 52) one_pos]
  refine roundDiv_mono one_pos hpos ?_
  rw [scaled_div, mul_one, Nat.cast_one, div_one]
  exact_mod_cast le_of_exponentOf hnum hden h

/-- The exponents ascend with the quotients. -/
theorem exponentOf_le (hnum : 0 < num) (hden : 0 < den) (hnum' : 0 < num') (hden' : 0 < den')
    (h : (num : ℚ) / den ≤ num' / den') : exponentOf num den ≤ exponentOf num' den' := by
  by_contra hlt
  rw [not_le] at hlt
  have hne : exponentOf num den ≠ minExponent :=
    ((minExponent_le_exponentOf num' den').trans_lt hlt).ne'
  have hlower := le_of_exponentOf hnum hden hne
  have hupper := lt_of_exponentOf hnum' hden'
  rw [le_div_iff₀ (two_zpow_pos _)] at hlower
  rw [div_lt_iff₀ (two_zpow_pos _), carry_eq] at hupper
  have hpow := two_zpow_le (Int.add_one_le_of_lt hlt)
  linarith

/-- **Rounding to binary64 keeps order.** -/
theorem value_nearest_le (hden : 0 < den) (hden' : 0 < den')
    (h : (num : ℚ) / den ≤ num' / den') :
    (nearest num den).value ≤ (nearest num' den').value := by
  rcases Nat.eq_zero_or_pos num with rfl | hnum
  · rw [value_nearest_zero]
    exact value_nonneg _
  have hnum' : 0 < num' := by
    have hquotient : (0 : ℚ) < num / den := by positivity
    by_contra hzero
    rw [Nat.eq_zero_of_not_pos hzero, Nat.cast_zero, zero_div] at h
    linarith
  rw [value_nearest hnum, value_nearest hnum']
  rcases (exponentOf_le hnum hden hnum' hden' h).lt_or_eq with hlt | heq
  · have hne : exponentOf num' den' ≠ minExponent :=
      ((minExponent_le_exponentOf num den).trans_lt hlt).ne'
    exact mul_two_zpow_le (rounded_le hnum hden) (le_rounded hnum' hden' hne) hlt
  · have hmono : rounded num den ≤ rounded num' den' := by
      refine roundDiv_mono (scaledDenominator_pos hden _) (scaledDenominator_pos hden' _) ?_
      rw [scaled_div, scaled_div, heq]
      gcongr
    rw [heq]
    gcongr

/-! ### Whole numbers -/

/-- **A whole number of at most the precision of the format is its own rounding.** -/
theorem value_ofNat {n : ℕ} (h : n ≤ 2 ^ 53) : (ofNat n).value = n := by
  rcases Nat.eq_zero_or_pos n with rfl | hpos
  · exact value_nearest_zero 1
  have hrounded {m : ℕ} (hscaled : scaledNumerator n (exponentOf n 1) =
      m * scaledDenominator 1 (exponentOf n 1)) :
      (rounded n 1 : ℚ) * 2 ^ exponentOf n 1 = n := by
    have hden := scaledDenominator_pos one_pos (exponentOf n 1)
    have hvalue := scaled_div n 1 (exponentOf n 1)
    rw [rounded, hscaled, roundDiv_mul m hden]
    rw [hscaled, Nat.cast_mul, mul_div_cancel_right₀ _ (by exact_mod_cast hden.ne'),
      eq_div_iff (zpow_ne_zero _ (by norm_num))] at hvalue
    rw [hvalue, Nat.cast_one, div_one]
  rw [ofNat, value_nearest hpos]
  rcases le_or_gt (exponentOf n 1) 0 with hle | hgt
  · refine hrounded (m := scaledNumerator n (exponentOf n 1)) ?_
    have hone : scaledDenominator 1 (exponentOf n 1) = 1 := by
      rw [scaledDenominator, Int.toNat_of_nonpos hle]
    rw [hone, mul_one]
  · -- only `2 ^ 53` itself has an exponent above zero
    have hne : exponentOf n 1 ≠ minExponent := by
      have : minExponent < 0 := by decide
      omega
    have hlower := le_of_exponentOf hpos one_pos hne
    rw [Nat.cast_one, div_one, le_div_iff₀ (two_zpow_pos _)] at hlower
    have hcast : (n : ℚ) ≤ 2 ^ 53 := by exact_mod_cast h
    have htwo := two_zpow_le (Int.add_one_le_of_lt hgt)
    rw [zero_add, zpow_one] at htwo
    have hn : n = 2 ^ 53 := by
      have : (2 : ℚ) ^ 53 ≤ n := by linarith
      exact le_antisymm h (by exact_mod_cast this)
    subst hn
    exact hrounded (m := 2 ^ 52) (by decide)

/-! ### Quotients and products -/

/-- Zero has no numerator. -/
theorem numerator_eq_zero {x : Dyadic} (h : x.value = 0) : x.numerator = 0 := by
  rw [numerator, value_eq_zero_iff.mp h, Nat.zero_mul]

theorem value_divNat_of_zero {x : Dyadic} (h : x.value = 0) (divisor : ℕ) :
    (x.divNat divisor).value = 0 := by
  rw [divNat, numerator_eq_zero h, value_nearest_zero]

theorem value_mul_of_zero {x : Dyadic} (h : x.value = 0) (y : Dyadic) : (x.mul y).value = 0 := by
  rw [mul, numerator_eq_zero h, Nat.zero_mul, value_nearest_zero]

theorem value_divNat_le_value_divNat {x y : Dyadic} {divisor : ℕ} (hdivisor : 0 < divisor)
    (h : x.value ≤ y.value) : (x.divNat divisor).value ≤ (y.divNat divisor).value := by
  refine value_nearest_le (Nat.mul_pos x.denominator_pos hdivisor)
    (Nat.mul_pos y.denominator_pos hdivisor) ?_
  push_cast
  rw [← div_div, ← div_div, numerator_div_denominator, numerator_div_denominator]
  gcongr

/-- The quotient that a product is rounded from is the product of the values. -/
theorem numerator_mul_div (x y : Dyadic) :
    ((x.numerator * y.numerator : ℕ) : ℚ) / (x.denominator * y.denominator : ℕ) =
      x.value * y.value := by
  push_cast
  rw [mul_div_mul_comm, numerator_div_denominator, numerator_div_denominator]

theorem value_mul_le_value_mul {x y : Dyadic} (z : Dyadic) (h : x.value ≤ y.value) :
    (x.mul z).value ≤ (y.mul z).value := by
  refine value_nearest_le (Nat.mul_pos x.denominator_pos z.denominator_pos)
    (Nat.mul_pos y.denominator_pos z.denominator_pos) ?_
  rw [numerator_mul_div, numerator_mul_div]
  exact mul_le_mul_of_nonneg_right h z.value_nonneg

/-- Part of a whole number is at most the whole number. -/
theorem value_mul_le {x : Dyadic} {n : ℕ} (hx : x.value ≤ 1) (hn : n ≤ 2 ^ 53) :
    (x.mul (ofNat n)).value ≤ n := by
  have hround : (x.mul (ofNat n)).value ≤ (nearest n 1).value := by
    refine value_nearest_le (Nat.mul_pos x.denominator_pos (ofNat n).denominator_pos) one_pos ?_
    rw [numerator_mul_div, value_ofNat hn, Nat.cast_one, div_one]
    exact mul_le_of_le_one_left (Nat.cast_nonneg n) hx
  exact hround.trans_eq (value_ofNat hn)

end Dyadic

end DivisionBenchmark

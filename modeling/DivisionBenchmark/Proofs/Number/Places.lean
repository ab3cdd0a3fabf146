import DivisionBenchmark.Proofs.Number.Nearest

/-!
# Numbers with fixed decimal places

What a number with fixed places looks like, and in which order such numbers come.

* The text of a number with places is digits, a point and as many digits as there are places. Read
  without the point these are the digits of the units it was made of, so the text loses nothing:
  `DivisionBenchmark.Dyadic.ofDigitChars_filter_fixedText`.
* A quotient is rounded twice before it is shown, to binary64 and then to its places. Both roundings
  keep order, so the units shown ascend with the dividend:
  `DivisionBenchmark.Dyadic.units_divNat_ofNat_le`. Where a bound on what is shown is asked for, it
  is enough to look at one dividend.
-/

namespace DivisionBenchmark

namespace Dyadic

/-! ### The digits of a text -/

/-- The digits behind the point, with the zeros they begin with. -/
def decimals (places rest : ℕ) : List Char :=
  List.replicate (places - (Nat.toDigits 10 rest).length) '0' ++ Nat.toDigits 10 rest

theorem toList_fixedText {places : ℕ} (hplaces : places ≠ 0) (units : ℕ) :
    (fixedText places units).toList =
      Nat.toDigits 10 (units / 10 ^ places) ++ '.' :: decimals places (units % 10 ^ places) := by
  rw [fixedText, if_neg hplaces]
  simp [decimals, ← String.length_toList]

/-- There are as many digits behind the point as there are places. -/
theorem length_decimals {places rest : ℕ} (hplaces : 0 < places) (hrest : rest < 10 ^ places) :
    (decimals places rest).length = places := by
  have hle := (Nat.length_toDigits_le_iff (by decide) hplaces).mpr hrest
  rw [decimals, List.length_append, List.length_replicate]
  omega

theorem isDigit_of_mem_decimals {places rest : ℕ} {c : Char} (hc : c ∈ decimals places rest) :
    c.isDigit := by
  rcases List.mem_append.mp hc with hzero | hdigit
  · rw [List.eq_of_mem_replicate hzero]
    rfl
  · exact Nat.isDigit_of_mem_toDigits (by decide) (by decide) hdigit

theorem ofDigitChars_decimals (places rest : ℕ) :
    Nat.ofDigitChars 10 (decimals places rest) 0 = rest := by
  rw [decimals, Nat.ofDigitChars_append, Nat.ofDigitChars_replicate_zero, mul_zero,
    Nat.ofDigitChars_toDigits (by decide) (by decide)]

/-- The characters of a number with places are digits and the point. -/
theorem eq_point_or_isDigit {places units : ℕ} (hplaces : places ≠ 0) {c : Char}
    (hc : c ∈ (fixedText places units).toList) : c = '.' ∨ c.isDigit := by
  rw [toList_fixedText hplaces, List.mem_append, List.mem_cons] at hc
  rcases hc with hwhole | rfl | hdecimal
  · exact .inr (Nat.isDigit_of_mem_toDigits (by decide) (by decide) hwhole)
  · exact .inl rfl
  · exact .inr (isDigit_of_mem_decimals hdecimal)

/-- **The digits of a number with places are its units**, read without the point. -/
theorem ofDigitChars_filter_fixedText {places : ℕ} (hplaces : places ≠ 0) (units : ℕ) :
    Nat.ofDigitChars 10 ((fixedText places units).toList.filter Char.isDigit) 0 = units := by
  have hpos := Nat.pos_of_ne_zero hplaces
  have hrest : units % 10 ^ places < 10 ^ places := Nat.mod_lt _ (by positivity)
  have hwhole : (Nat.toDigits 10 (units / 10 ^ places)).filter Char.isDigit =
      Nat.toDigits 10 (units / 10 ^ places) :=
    List.filter_eq_self.mpr fun c hc => Nat.isDigit_of_mem_toDigits (by decide) (by decide) hc
  have hdecimals : (decimals places (units % 10 ^ places)).filter Char.isDigit =
      decimals places (units % 10 ^ places) :=
    List.filter_eq_self.mpr fun c hc => isDigit_of_mem_decimals hc
  rw [toList_fixedText hplaces, List.filter_append, List.filter_cons_of_neg (by decide), hwhole,
    hdecimals, Nat.ofDigitChars_append, Nat.ofDigitChars_toDigits (by decide) (by decide),
    Nat.ofDigitChars_eq_ofDigitChars_zero, length_decimals hpos hrest, ofDigitChars_decimals,
    Nat.div_add_mod]

/-! ### Rounding to fixed places -/

/-- Rounding to fixed places keeps order. -/
theorem units_le_units {x y : Dyadic} (places : ℕ) (h : x.value ≤ y.value) :
    x.units places ≤ y.units places := by
  refine roundDiv_mono x.denominator_pos y.denominator_pos ?_
  push_cast
  rw [mul_div_right_comm, mul_div_right_comm, numerator_div_denominator, numerator_div_denominator]
  gcongr

/-- **Rounding a quotient twice keeps order**, first to binary64 and then to fixed places. -/
theorem units_divNat_ofNat_le {n n' divisor : ℕ} (places : ℕ) (hdivisor : 0 < divisor)
    (h : n ≤ n') :
    ((ofNat n).divNat divisor).units places ≤ ((ofNat n').divNat divisor).units places := by
  refine units_le_units places (value_divNat_le_value_divNat hdivisor ?_)
  refine value_nearest_le one_pos one_pos ?_
  gcongr

end Dyadic

end DivisionBenchmark

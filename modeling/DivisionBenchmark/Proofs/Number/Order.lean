import DivisionBenchmark.Number.Binary64
import DivisionBenchmark.Proofs.Number.Nearest

/-!
# The order of machine numbers

Machine numbers are compared by their fields: the exponents first and then the significands. That is
the order of the values they stand for, because a significand uses all the bits there are unless its
exponent is the least (`DivisionBenchmark.Dyadic.Normal`).

Main statements, on machine numbers that are not below zero:

* they are zero, or have a magnitude and no sign (`DivisionBenchmark.Binary64.nonNegative_of_le`);
* they are compared by their magnitudes (`DivisionBenchmark.Binary64.atMost_of_le`).
-/

namespace DivisionBenchmark

open Float.Model (Format UnpackedFloat)
open Float.Model.UnpackedFloat

/-- **A dyadic number in the form the format keeps**: with all the bits there are, unless its
exponent is the least. -/
structure Dyadic.Normal (x : Dyadic) : Prop where
  /-- There is room for the significand. -/
  significand_lt : x.significand < 2 ^ 53
  /-- The exponent is not below the least. -/
  minExponent_le : Dyadic.minExponent ≤ x.exponent
  /-- The leading bit is used, or the exponent is the least. -/
  full : 2 ^ 52 ≤ x.significand ∨ x.exponent = Dyadic.minExponent

/-- Of two numbers in this form the one with the greater exponent is greater. -/
theorem Dyadic.Normal.value_le_of_exponent_lt {x y : Dyadic} (hx : x.Normal) (hy : y.Normal)
    (h : x.exponent < y.exponent) : x.value ≤ y.value := by
  have hfull : 2 ^ 52 ≤ y.significand :=
    hy.full.resolve_right (hx.minExponent_le.trans_lt h).ne'
  exact mul_two_zpow_le hx.significand_lt.le hfull h

namespace Binary64

/-! ### What a machine number stands for -/

/-- The value of a machine number that is taken apart into its fields. -/
def ofUnpacked : UnpackedFloat → Binary64
  | .finite sign mantissa exponent _ => .finite (sign == .negative) ⟨mantissa, exponent⟩
  | .zero sign => .finite (sign == .negative) ⟨0, Dyadic.minExponent⟩
  | .infinity sign => .infinite (sign == .negative)
  | .notANumber => .nan

section unpacked

variable (sign : Sign)

theorem ofUnpacked_infinity : ofUnpacked (.infinity sign) = .infinite (sign == .negative) := rfl

theorem ofUnpacked_zero :
    ofUnpacked (.zero sign) = .finite (sign == .negative) ⟨0, Dyadic.minExponent⟩ := rfl

theorem ofUnpacked_finite {m : ℕ} {e : ℤ} (hm : 0 < m) :
    ofUnpacked (.finite sign m e hm) = .finite (sign == .negative) ⟨m, e⟩ := rfl

end unpacked

section fields

variable (b : BitVec 64)

theorem toNat_unpackMantissa :
    (@unpackMantissa .binary64 b).toNat = b.toNat % Dyadic.leadingBit := by
  simp [unpackMantissa, Dyadic.leadingBit]

theorem toNat_unpackExponent :
    (@unpackExponent .binary64 b).toNat = b.toNat / Dyadic.leadingBit % 2048 := by
  simp [unpackExponent, Nat.shiftRight_eq_div_pow, Dyadic.leadingBit]

theorem unpackSign_eq :
    (Sign.ofBitVec (@unpackSign .binary64 b) == .negative) =
      decide (signBit ≤ b.toNat) := by
  have hlt : b.toNat < 18446744073709551616 := b.isLt
  have hsign : (@unpackSign .binary64 b).toNat = b.toNat / signBit % 2 := by
    show (BitVec.extractLsb 63 63 b).toNat = _
    simp [Nat.shiftRight_eq_div_pow, signBit]
  have hzero : @unpackSign .binary64 b = 0#1 ↔ ¬signBit ≤ b.toNat := by
    rw [← BitVec.toNat_inj, hsign, BitVec.toNat_ofNat]
    unfold signBit
    omega
  rw [Sign.ofBitVec]
  by_cases hneg : signBit ≤ b.toNat
  · rw [if_neg fun h => hzero.mp h hneg, decide_eq_true hneg]
    rfl
  · rw [if_pos (hzero.mpr hneg), decide_eq_false hneg]
    rfl

theorem toNat_implied_append :
    (1#1 ++ @unpackMantissa .binary64 b).toNat =
      Dyadic.leadingBit + b.toNat % Dyadic.leadingBit := by
  rw [BitVec.toNat_append,
    ← Nat.shiftLeft_add_eq_or_of_lt (@unpackMantissa .binary64 b).isLt,
    toNat_unpackMantissa]
  rfl

/-- The fields of a machine number are its bits, divided. -/
theorem ofUnpacked_unpack : ofUnpacked (UnpackedFloat.unpack .binary64 b) = ofBits b.toNat := by
  have hmantissa := toNat_unpackMantissa b
  have hexponent := toNat_unpackExponent b
  have hones : @unpackExponent .binary64 b = -1#_ ↔
      b.toNat / Dyadic.leadingBit % 2048 = 2047 := by
    rw [← BitVec.toNat_inj, hexponent]
    rfl
  have hleast : @unpackExponent .binary64 b = 0#_ ↔
      b.toNat / Dyadic.leadingBit % 2048 = 0 := by
    rw [← BitVec.toNat_inj, hexponent]
    rfl
  have hnone : @unpackMantissa .binary64 b = 0#_ ↔
      b.toNat % Dyadic.leadingBit = 0 := by
    rw [← BitVec.toNat_inj, hmantissa]
    rfl
  unfold UnpackedFloat.unpack ofBits
  dsimp only
  by_cases hinf : b.toNat / Dyadic.leadingBit % 2048 = 2047
  · rw [if_pos (hones.mpr hinf), if_pos hinf]
    by_cases hzero : b.toNat % Dyadic.leadingBit = 0
    · rw [if_pos (hnone.mpr hzero), if_pos hzero, ofUnpacked_infinity, unpackSign_eq]
    · rw [if_neg (mt hnone.mp hzero), if_neg hzero]
      rfl
  · rw [if_neg (mt hones.mp hinf), if_neg hinf]
    by_cases hsub : b.toNat / Dyadic.leadingBit % 2048 = 0
    · rw [if_pos (hleast.mpr hsub), if_pos hsub]
      by_cases hzero : b.toNat % Dyadic.leadingBit = 0
      · rw [dif_pos (hnone.mpr hzero), ofUnpacked_zero, unpackSign_eq, hzero]
      · rw [dif_neg (mt hnone.mp hzero), ofUnpacked_finite, unpackSign_eq, hmantissa, hexponent,
          hsub]
        rfl
    · rw [if_neg (mt hleast.mp hsub), if_neg hsub, ofUnpacked_finite, unpackSign_eq,
        toNat_implied_append, hexponent]
      rfl

end fields

theorem ofFloat_eq (x : Float) : ofFloat x = ofUnpacked x.toModel.unpack :=
  (ofUnpacked_unpack x.toModel.toBits.toBitVec).symm

/-- A number that is read off bits is in the form the format keeps. -/
theorem normal_of_ofBits {bits : ℕ} {negative : Bool} {x : Dyadic}
    (h : ofBits bits = .finite negative x) : x.Normal := by
  unfold ofBits at h
  dsimp only at h
  split at h
  · split at h <;> cases h
  · have hfraction : bits % Dyadic.leadingBit < Dyadic.leadingBit := Nat.mod_lt _ (by decide)
    split at h
    · cases h
      exact ⟨hfraction.trans (by decide), le_rfl, .inr rfl⟩
    · rename_i hfield
      cases h
      refine ⟨?_, ?_, .inl (Nat.le_add_right _ _)⟩
      · unfold Dyadic.leadingBit at *
        dsimp only
        omega
      · unfold Dyadic.minExponent
        dsimp only
        omega

/-! ### Comparing -/

/-- **Zero, or above it.** -/
inductive NonNegative : Binary64 → Prop
  /-- Zero may have either sign. -/
  | zero {negative : Bool} {x : Dyadic} (h : x.value = 0) : NonNegative (.finite negative x)
  /-- A number without a sign. -/
  | finite {x : Dyadic} : NonNegative (.finite false x)
  /-- Above all numbers. -/
  | infinite : NonNegative (.infinite false)

/-- **At most as far from zero.** -/
inductive AtMost : Binary64 → Binary64 → Prop
  /-- Numbers are compared by their magnitudes. -/
  | finite {negative negative' : Bool} {x y : Dyadic} (h : x.value ≤ y.value) :
      AtMost (.finite negative x) (.finite negative' y)
  /-- Everything that is not below zero is at most infinite. -/
  | infinite {x : Binary64} : AtMost x (.infinite false)

theorem le_iff {x y : Float} :
    x ≤ y ↔ (x.toModel.unpack.compare y.toModel.unpack).any (·.isLE) = true := by
  show (decide (x.toModel.unpack.le y.toModel.unpack = true)) = true ↔ _
  rw [decide_eq_true_iff]
  rfl

theorem zero_unpack : (0 : Float).toModel.unpack = .zero .positive := rfl

/-- The fields of a machine number that is not below zero. -/
theorem fields_of_zero_le {x : Float} (h : 0 ≤ x) :
    (∃ sign, x.toModel.unpack = .zero sign) ∨ x.toModel.unpack = .infinity .positive ∨
      ∃ m e hm, x.toModel.unpack = .finite .positive m e hm := by
  rw [le_iff, zero_unpack] at h
  rcases hx : x.toModel.unpack with ⟨_ | _⟩ | _ | sign | ⟨_ | _, m, e, hm⟩ <;> rw [hx] at h
  case infinity.positive => exact .inr (.inl rfl)
  case zero => exact .inl ⟨sign, rfl⟩
  case finite.positive => exact .inr (.inr ⟨m, e, hm, rfl⟩)
  all_goals cases h

/-- **A machine number that is not below zero** has no sign, unless it is zero. -/
theorem nonNegative_of_le {x : Float} (h : 0 ≤ x) : NonNegative (ofFloat x) := by
  rw [ofFloat_eq]
  rcases fields_of_zero_le h with ⟨sign, hx⟩ | hx | ⟨m, e, hm, hx⟩ <;> rw [hx]
  · exact .zero (Dyadic.value_eq_zero_iff.mpr rfl)
  · exact .infinite
  · exact .finite

/-- What is not below it is not below zero either. -/
theorem zero_le_of_le {x y : Float} (hx : 0 ≤ x) (h : x ≤ y) : 0 ≤ y := by
  rw [le_iff] at h ⊢
  rw [zero_unpack]
  rcases fields_of_zero_le hx with ⟨sign, hx⟩ | hx | ⟨m, e, hm, hx⟩ <;> rw [hx] at h <;>
    rcases hy : y.toModel.unpack with ⟨_ | _⟩ | _ | _ | ⟨_ | _, m', e', hm'⟩ <;> rw [hy] at h <;>
      first | rfl | cases h

/-- Fields that are compared one after the other are compared as values. -/
theorem value_le_of_fields {x y : Dyadic} (hx : x.Normal) (hy : y.Normal)
    (h : ((compare x.exponent y.exponent).then
      (compare x.significand y.significand)).isLE = true) : x.value ≤ y.value := by
  rcases lt_trichotomy x.exponent y.exponent with hlt | heq | hgt
  · exact hx.value_le_of_exponent_lt hy hlt
  · rw [heq, Int.compare_eq_eq.mpr rfl] at h
    have hle : x.significand ≤ y.significand := Nat.isLE_compare.mp h
    unfold Dyadic.value
    rw [heq]
    gcongr
  · rw [Int.compare_eq_gt.mpr hgt] at h
    cases h

theorem normal_of_unpack {x : Float} {m : ℕ} {e : ℤ} {hm : 0 < m}
    (h : x.toModel.unpack = .finite .positive m e hm) : Dyadic.Normal ⟨m, e⟩ := by
  have hvalue := ofFloat_eq x
  rw [h] at hvalue
  exact normal_of_ofBits hvalue

/-- **Machine numbers that are not below zero are compared by their magnitudes.** -/
theorem atMost_of_le {x y : Float} (hx : 0 ≤ x) (h : x ≤ y) : AtMost (ofFloat x) (ofFloat y) := by
  have hy := zero_le_of_le hx h
  rw [le_iff] at h
  rw [ofFloat_eq, ofFloat_eq]
  rcases fields_of_zero_le hy with ⟨sign', hyu⟩ | hyu | ⟨m', e', hm', hyu⟩
  · rcases fields_of_zero_le hx with ⟨sign, hxu⟩ | hxu | ⟨m, e, hm, hxu⟩ <;> rw [hxu, hyu] at h
    · rw [hxu, hyu]
      exact .finite le_rfl
    · cases h
    · cases h
  · rw [hyu]
    exact .infinite
  · rcases fields_of_zero_le hx with ⟨sign, hxu⟩ | hxu | ⟨m, e, hm, hxu⟩ <;> rw [hxu, hyu] at h
    · rw [hxu, hyu]
      exact .finite ((Dyadic.value_eq_zero_iff.mpr rfl).trans_le (Dyadic.value_nonneg _))
    · cases h
    · rw [hxu, hyu]
      exact .finite (value_le_of_fields (normal_of_unpack hxu) (normal_of_unpack hyu) h)

/-! ### Parts of one -/

variable {x y : Binary64}

theorem NonNegative.divNat (h : x.NonNegative) (divisor : ℕ) :
    (x.divNat divisor).NonNegative := by
  cases h with
  | zero hzero => exact .zero (Dyadic.value_divNat_of_zero hzero divisor)
  | finite => exact .finite
  | infinite => exact .infinite

theorem AtMost.divNat {divisor : ℕ} (hdivisor : 0 < divisor) (h : AtMost x y) :
    AtMost (x.divNat divisor) (y.divNat divisor) := by
  cases h with
  | finite hle => exact .finite (Dyadic.value_divNat_le_value_divNat hdivisor hle)
  | infinite => exact .infinite

theorem value_one : (Dyadic.ofNat 1).value = 1 := by
  rw [Dyadic.value_ofNat (by norm_num), Nat.cast_one]

/-- A number that is not below zero is cut off at one. -/
theorem atMostOne_finite {negative : Bool} {m : Dyadic} (h : NonNegative (.finite negative m)) :
    ∃ part, (finite negative m).atMostOne = .finite negative part ∧
      part.value = min m.value 1 := by
  cases h with
  | zero hzero =>
    refine ⟨m, ?_, by rw [hzero]; norm_num⟩
    have hle : m ≤ Dyadic.ofNat 1 := by
      rw [Dyadic.le_iff_value_le, hzero]
      exact Dyadic.value_nonneg _
    cases negative with
    | true => rfl
    | false => simp only [atMostOne, if_pos hle]
  | finite =>
    refine ⟨_, rfl, ?_⟩
    split
    · rename_i hle
      rw [Dyadic.le_iff_value_le, value_one] at hle
      exact (min_eq_left hle).symm
    · rename_i hnot
      rw [Dyadic.le_iff_value_le, value_one, not_le] at hnot
      rw [min_eq_right hnot.le, value_one]

/-- **What is cut off at one** is a number from zero to one, with a sign only where it is zero. -/
theorem NonNegative.exists_atMostOne (h : x.NonNegative) :
    ∃ negative part, x.atMostOne = .finite negative part ∧ part.value ≤ 1 ∧
      (negative = true → part.value = 0) := by
  cases hx : x with
  | nan => rw [hx] at h; cases h
  | infinite negative =>
    rw [hx] at h
    cases h
    exact ⟨false, _, rfl, value_one.le, nofun⟩
  | finite negative m =>
    rw [hx] at h
    obtain ⟨part, hpart, hvalue⟩ := atMostOne_finite h
    refine ⟨negative, part, hpart, hvalue ▸ min_le_right _ _, ?_⟩
    rintro rfl
    cases h with
    | zero hzero =>
      rw [hvalue, hzero]
      norm_num

theorem value_le_one_of_atMostOne {part : Dyadic} (h : x.atMostOne = .finite false part) :
    part.value ≤ 1 := by
  cases x with
  | nan => cases h
  | infinite negative =>
    cases negative with
    | true => cases h
    | false =>
      cases h
      exact value_one.le
  | finite negative m =>
    cases negative with
    | true => cases h
    | false =>
      obtain ⟨part', hpart', hvalue⟩ := atMostOne_finite (.finite (x := m))
      obtain ⟨-, rfl⟩ := Binary64.finite.inj (h.symm.trans hpart')
      exact hvalue ▸ min_le_right _ _

/-- Cutting off at one keeps order. -/
theorem AtMost.atMostOne (h : AtMost x y) (hx : x.NonNegative) (hy : y.NonNegative) :
    AtMost x.atMostOne y.atMostOne := by
  cases h with
  | finite hle =>
    obtain ⟨part, hpart, hvalue⟩ := atMostOne_finite hx
    obtain ⟨part', hpart', hvalue'⟩ := atMostOne_finite hy
    rw [hpart, hpart']
    refine .finite ?_
    rw [hvalue, hvalue']
    exact min_le_min_right 1 hle
  | infinite =>
    obtain ⟨negative, part, hpart, hone, -⟩ := hx.exists_atMostOne
    rw [hpart]
    exact .finite (hone.trans_eq value_one.symm)

/-- Only zero is cut off to zero. -/
theorem isZero_atMostOne (x : Binary64) : x.atMostOne.isZero = x.isZero := by
  have hone : (Dyadic.ofNat 1).significand ≠ 0 := by decide
  cases x with
  | nan => rfl
  | infinite negative =>
    cases negative with
    | true => rfl
    | false => exact beq_eq_false_iff_ne.mpr hone
  | finite negative m =>
    cases negative with
    | true => rfl
    | false =>
      simp only [Binary64.atMostOne, isZero]
      split
      · rfl
      · rename_i hnot
        have hne : m.significand ≠ 0 := fun hzero => hnot <| by
          rw [Dyadic.le_iff_value_le, Dyadic.value_eq_zero_iff.mpr hzero]
          exact Dyadic.value_nonneg _
        rw [beq_eq_false_iff_ne.mpr hone, beq_eq_false_iff_ne.mpr hne]

end Binary64

end DivisionBenchmark

import DivisionBenchmark.Number.Rounding

/-!
# Dyadic numbers

A nonnegative number that is a whole multiple of a power of two, which is what a binary
floating-point format holds. The format here is *binary64*: significands below `2 ^ 53`, exponents
from `-1074` on.

Main definitions:

* `DivisionBenchmark.Dyadic`: a significand and an exponent;
* `DivisionBenchmark.Dyadic.nearest`: the binary64 number nearest to a quotient, the one with the
  even significand of two equally near;
* `DivisionBenchmark.Dyadic.divNat`, `DivisionBenchmark.Dyadic.mul`: quotient and product, as the
  nearest numbers of the format;
* `DivisionBenchmark.Dyadic.fixed`: a dyadic number with a fixed number of decimal places.

Everything is exact arithmetic on natural numbers. The format's upper limit is left to those who
store the number: a significand with an exponent above `DivisionBenchmark.Dyadic.maxExponent` is
too great for it.
-/

namespace DivisionBenchmark

/-- **A dyadic number**: `significand * 2 ^ exponent`. -/
structure Dyadic where
  /-- The whole number that is scaled. -/
  significand : Nat
  /-- The power of two it is scaled by. -/
  exponent : Int
  deriving DecidableEq, Repr

namespace Dyadic

/-- The significands of the format have at most this many bits. -/
def precision : Nat := 53

/-- The value of the leading bit of a significand of full precision, two to the 52. -/
def leadingBit : Nat := 4503599627370496

/-- The significands of the format are below this, two to the 53. -/
def significandBound : Nat := 9007199254740992

/-- The least exponent of the format. -/
def minExponent : Int := -1074

/-- The greatest exponent of the format. -/
def maxExponent : Int := 971

/-- The numerator of a dyadic number over its denominator. -/
def numerator (x : Dyadic) : Nat := x.significand * Nat.pow 2 x.exponent.toNat

/-- The denominator of a dyadic number, a power of two. -/
def denominator (x : Dyadic) : Nat := Nat.pow 2 (-x.exponent).toNat

theorem denominator_pos (x : Dyadic) : 0 < x.denominator := Nat.two_pow_pos _

/-! ### Rounding to the format -/

/-- The numerator of a quotient divided by a power of two. -/
def scaledNumerator (num : Nat) (exponent : Int) : Nat := num * Nat.pow 2 (-exponent).toNat

/-- The denominator of a quotient divided by a power of two. -/
def scaledDenominator (den : Nat) (exponent : Int) : Nat := den * Nat.pow 2 exponent.toNat

/-- The exponent with which the quotient has a significand of full precision, or the least exponent
of the format where that one is greater. -/
def exponentOf (num den : Nat) : Int :=
  -- the logarithms tell the exponent but for one
  let low := (num.log2 : Int) - den.log2 - precision
  let exponent :=
    if scaledNumerator num low < significandBound * scaledDenominator den low then low else low + 1
  max exponent minExponent

/-- **The binary64 number nearest to a quotient.** -/
def nearest (num den : Nat) : Dyadic :=
  if num = 0 then ⟨0, minExponent⟩
  else
    let exponent := exponentOf num den
    let significand := roundDiv (scaledNumerator num exponent) (scaledDenominator den exponent)
    -- rounding up may carry into one bit more than there is room for
    if significand = significandBound then ⟨leadingBit, exponent + 1⟩
    else ⟨significand, exponent⟩

/-- The binary64 number nearest to a natural number. -/
def ofNat (n : Nat) : Dyadic := nearest n 1

/-- The binary64 number nearest to a dyadic number divided by a natural number. -/
def divNat (x : Dyadic) (divisor : Nat) : Dyadic :=
  nearest x.numerator (x.denominator * divisor)

/-- The binary64 number nearest to the product of two dyadic numbers. -/
def mul (x y : Dyadic) : Dyadic :=
  nearest (x.numerator * y.numerator) (x.denominator * y.denominator)

/-! ### Order -/

instance : LE Dyadic := ⟨fun x y => x.numerator * y.denominator ≤ y.numerator * x.denominator⟩

instance (x y : Dyadic) : Decidable (x ≤ y) := Nat.decLe _ _

/-- The least whole number that is not below a dyadic number. -/
def ceil (x : Dyadic) : Nat := (x.numerator + (x.denominator - 1)) / x.denominator

/-! ### Fixed decimal places -/

/-- The number of units of the last of so many decimal places nearest to a dyadic number. -/
def units (places : Nat) (x : Dyadic) : Nat :=
  roundDiv (x.numerator * Nat.pow 10 places) x.denominator

/-- A number of units of the last of so many decimal places, as text. -/
def fixedText (places units : Nat) : String :=
  let whole := (units / Nat.pow 10 places).repr
  if places = 0 then whole
  else
    let decimals := (units % Nat.pow 10 places).repr
    whole ++ "." ++ String.ofList (List.replicate (places - decimals.length) '0') ++ decimals

/-- A dyadic number with so many decimal places, a half going to the even neighbour. -/
def fixed (places : Nat) (x : Dyadic) : String :=
  fixedText places (x.units places)

end Dyadic

end DivisionBenchmark

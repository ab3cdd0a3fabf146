import DivisionBenchmark.Number.Dyadic

/-!
# Binary64 numbers

The values of the floating-point format as data: a sign with a dyadic magnitude, an infinity, or no
number. Texts are made from this form, never from the machine's own.

Main definitions:

* `DivisionBenchmark.Binary64`: the values;
* `DivisionBenchmark.Binary64.ofFloat`: the value of a machine number, read off its bits;
* `DivisionBenchmark.Dyadic.toFloat`: the machine number of a dyadic number of the format;
* `DivisionBenchmark.Binary64.divNat`, `DivisionBenchmark.Binary64.atMostOne`: how a percentage
  becomes a part of one;
* `DivisionBenchmark.Binary64.fixed`: a value with a fixed number of decimal places.
-/

namespace DivisionBenchmark

/-- **A value of the floating-point format.** -/
inductive Binary64 where
  /-- A number; zero has a sign too. -/
  | finite (negative : Bool) (magnitude : Dyadic)
  /-- Beyond all numbers. -/
  | infinite (negative : Bool)
  /-- No number. -/
  | nan
  deriving DecidableEq, Repr

namespace Binary64

/-- The value of the sign bit, two to the 63. -/
def signBit : Nat := 9223372036854775808

/-- The value with these bits: sign, eleven bits of exponent, fifty-two bits of fraction. -/
def ofBits (bits : Nat) : Binary64 :=
  let negative : Bool := signBit ≤ bits
  let field : Nat := bits / Dyadic.leadingBit % 2048
  let fraction : Nat := bits % Dyadic.leadingBit
  if field = 2047 then
    if fraction = 0 then .infinite negative else .nan
  -- subnormal: no leading bit is implied, and the exponent is the least
  else if field = 0 then .finite negative ⟨fraction, Dyadic.minExponent⟩
  else .finite negative ⟨Dyadic.leadingBit + fraction, (field : Int) - 1075⟩

/-- The value of a machine number. -/
def ofFloat (x : Float) : Binary64 := ofBits x.toBits.toNat

/-- The value nearest to a signed quotient. -/
def nearest (negative : Bool) (num den : Nat) : Binary64 :=
  let magnitude := Dyadic.nearest num den
  if Dyadic.maxExponent < magnitude.exponent then .infinite negative
  else .finite negative magnitude

/-! ### Parts of one -/

/-- A value divided by a natural number that is not zero. -/
def divNat (divisor : Nat) : Binary64 → Binary64
  | .finite negative magnitude => .finite negative (magnitude.divNat divisor)
  | x => x

/-- A value, or one where it is greater. -/
def atMostOne : Binary64 → Binary64
  | .finite false magnitude =>
    let one := Dyadic.ofNat 1
    .finite false (if magnitude ≤ one then magnitude else one)
  | .infinite false => .finite false (Dyadic.ofNat 1)
  | x => x

/-- Whether a value is zero, of either sign. -/
def isZero : Binary64 → Bool
  | .finite _ magnitude => magnitude.significand == 0
  | _ => false

/-! ### Texts -/

/-- The sign of a number in a text. -/
def signText (negative : Bool) : String := if negative then "-" else ""

/-- The texts of the values that are no numbers, or of a number by the text of its magnitude. -/
def text (magnitudeText : Dyadic → String) : Binary64 → String
  | .finite negative magnitude => signText negative ++ magnitudeText magnitude
  | .infinite negative => signText negative ++ "inf"
  | .nan => "NaN"

/-- A value with so many decimal places. -/
def fixed (places : Nat) (x : Binary64) : String := x.text (Dyadic.fixed places)

end Binary64

/-- The bits of a dyadic number of the format; infinity where it is too great for it. -/
def Dyadic.bits (x : Dyadic) : Nat :=
  if x.significand < Dyadic.leadingBit then x.significand
  else if Dyadic.maxExponent < x.exponent then 2047 * Dyadic.leadingBit
  else (x.exponent + 1075).toNat * Dyadic.leadingBit + (x.significand - Dyadic.leadingBit)

/-- The machine number of a dyadic number of the format. -/
def Dyadic.toFloat (x : Dyadic) : Float := Float.ofBits (UInt64.ofNat x.bits)

end DivisionBenchmark

import DivisionBenchmark.Number.Binary64

/-!
# Shortest decimals

The shortest decimal number that reads back as a given binary64 number, and of the shortest the one
nearest to it. A decimal reads back where it lies between the halfway points to the two neighbours
of the number; the halfway points themselves read back where the significand is even. Where two of
the shortest are equally near, a rule for ties chooses.

Main definitions:

* `DivisionBenchmark.Decimal`: digits and a power of ten;
* `DivisionBenchmark.Tie`: the rules for ties;
* `DivisionBenchmark.Dyadic.shortest`: the shortest decimal of a number;
* `DivisionBenchmark.Decimal.positional`, `DivisionBenchmark.Decimal.scientific`: its texts.
-/

namespace DivisionBenchmark

/-- **A decimal number**: `digits * 10 ^ exponent`. -/
structure Decimal where
  /-- The digits, as a whole number. -/
  digits : Nat
  /-- The power of ten they are scaled by. -/
  exponent : Int
  deriving DecidableEq, Repr

namespace Decimal

/-- The number of digits of a whole number. -/
def width (n : Nat) : Nat := n.repr.length

/-- Digits without the zeros they end with, each zero raising the exponent. -/
def strip : Nat → Nat → Int → Decimal
  | 0, digits, exponent => ⟨digits, exponent⟩
  | fuel + 1, digits, exponent =>
    if digits % 10 = 0 then strip fuel (digits / 10) (exponent + 1) else ⟨digits, exponent⟩

/-- The same number without zeros at the end of its digits. -/
def normalize (d : Decimal) : Decimal :=
  if d.digits = 0 then ⟨0, 0⟩ else strip (width d.digits) d.digits d.exponent

/-- So many zeros. -/
def zeros (n : Nat) : String := String.ofList (List.replicate n '0')

/-- The number with all its places before and after the point; without a point where there is
nothing after it. -/
def positional (d : Decimal) : String :=
  let digits := d.digits.repr
  if 0 ≤ d.exponent then digits ++ zeros d.exponent.toNat
  else
    let places := (-d.exponent).toNat
    if places < digits.length then
      let cut := digits.length - places
      String.ofList (digits.toList.take cut) ++ "." ++ String.ofList (digits.toList.drop cut)
    else "0." ++ zeros (places - digits.length) ++ digits

/-- The number with all its places, and a point with a zero where there is nothing after it. -/
def positionalReal (d : Decimal) : String :=
  if 0 ≤ d.exponent then d.positional ++ ".0" else d.positional

/-- The exponent of the number written with one digit before the point. -/
def magnitude (d : Decimal) : Int := d.exponent + (width d.digits : Int) - 1

/-- The number with one digit before the point and a signed exponent. -/
def scientific (d : Decimal) : String :=
  let digits := d.digits.repr.toList
  let decimals := digits.drop 1
  let point := if decimals.isEmpty then "" else "."
  let sign := if d.magnitude < 0 then "e-" else "e+"
  String.ofList (digits.take 1) ++ point ++ String.ofList decimals ++ sign ++
    d.magnitude.natAbs.repr

end Decimal

/-- **Which of two equally near decimals is taken.** -/
inductive Tie where
  /-- The one whose last digit is even. -/
  | even
  /-- The greater one. -/
  | up
  deriving DecidableEq, Repr

/-- Whether the lesser of two neighbours is taken, given its digits. -/
def Tie.keeps (tie : Tie) (digits : Nat) : Bool :=
  match tie with
  | .even => digits % 2 == 0
  | .up => false

namespace Dyadic

/-- **The decimals that read back as a number**, as an interval of fractions over one
denominator. -/
structure Interval where
  /-- The halfway point to the neighbour below. -/
  low : Nat
  /-- The number itself. -/
  centre : Nat
  /-- The halfway point to the neighbour above. -/
  high : Nat
  /-- The denominator of the three. -/
  denominator : Nat
  /-- Whether the halfway points read back too. -/
  closed : Bool

/-- The decimals that read back as a number. The neighbour below a power of two is only half as
far away as the one above, unless the exponent is the least already. -/
def interval (x : Dyadic) : Interval :=
  -- in quarters of the last place: half a place is two of them, a quarter place is one
  let below := if x.significand = leadingBit ∧ minExponent < x.exponent then 1 else 2
  let power := Nat.pow 2 (x.exponent - 2).toNat
  ⟨(4 * x.significand - below) * power, 4 * x.significand * power,
    (4 * x.significand + 2) * power, Nat.pow 2 (2 - x.exponent).toNat,
    x.significand % 2 = 0⟩

/-- The fraction `a / b` scaled by a power of ten, as a numerator and a denominator. -/
def scaleTen (a b : Nat) (power : Int) : Nat × Nat :=
  (a * Nat.pow 10 power.toNat, b * Nat.pow 10 (-power).toNat)

/-- Whether a decimal reads back. -/
def Interval.holds (i : Interval) (d : Decimal) : Bool :=
  let (num, den) := scaleTen d.digits 1 d.exponent
  let low := i.low * den
  let value := num * i.denominator
  let high := i.high * den
  if i.closed then low ≤ value && value ≤ high else low < value && value < high

/-- The exponent of ten of the leading digit of the centre of an interval. -/
def Interval.leading (i : Interval) : Int :=
  -- the widths tell the exponent but for one
  let guess := (Decimal.width i.centre : Int) - Decimal.width i.denominator
  let (num, den) := scaleTen i.centre i.denominator (-guess)
  if den ≤ num then guess else guess - 1

/-- The decimal of so many digits that reads back and is nearest to the centre, if there is one:
it is one of the two neighbours of the centre on the grid of that many digits. -/
def Interval.candidate (i : Interval) (tie : Tie) (count : Nat) : Option Decimal :=
  let exponent := i.leading - count + 1
  let (num, den) := scaleTen i.centre i.denominator (-exponent)
  let below : Decimal := ⟨num / den, exponent⟩
  let above : Decimal := ⟨num / den + 1, exponent⟩
  match i.holds below, i.holds above with
  | true, true =>
    if 2 * (num % den) < den then some below
    else if den < 2 * (num % den) then some above
    else if tie.keeps below.digits then some below else some above
  | true, false => some below
  | false, true => some above
  | false, false => none

/-- Seventeen digits always suffice. -/
def sufficientDigits : Nat := 17

/-- **The shortest decimal that reads back as a number**, the nearest of those. -/
def shortest (x : Dyadic) (tie : Tie) : Decimal :=
  if x.significand = 0 then ⟨0, 0⟩
  else
    match (List.range' 1 sufficientDigits).findSome? (x.interval.candidate tie) with
    | some d => d.normalize
    | none => ⟨0, 0⟩

end Dyadic

end DivisionBenchmark

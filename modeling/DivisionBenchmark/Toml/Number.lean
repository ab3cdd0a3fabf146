import DivisionBenchmark.Number.Binary64
import DivisionBenchmark.Toml.Lexeme

/-!
# Numbers and dates of TOML documents

Digits may be parted by single underscores. A whole number is written in base ten with an optional
sign and without leading zeros, or in base sixteen, eight or two behind a mark of its base, and has
a signed 64-bit value. A real number has decimals, an exponent, or both. A date or a time is only
recognised.

Main definitions: `DivisionBenchmark.Toml.integer`, `DivisionBenchmark.Toml.float`,
`DivisionBenchmark.Toml.dateTime`.
-/

namespace DivisionBenchmark.Toml

/-- Digits, parted by single underscores. -/
def digits (isDigit : Char → Bool) : Reader (List Char) := do
  let first ← Reader.satisfy isDigit
  let rest ← Reader.many <|
    Reader.satisfy isDigit <|> (do Reader.char '_'; Reader.satisfy isDigit)
  return first :: rest

/-- The number that digits of a base stand for. -/
def valueOf (base : Nat) (digits : List Char) : Nat :=
  digits.foldl (fun n c => base * n + Text.hexValue c) 0

/-- An optional sign: whether it is a minus. -/
def sign : Reader Bool := do
  match ← optional (Reader.satisfy fun c => c == '+' || c == '-') with
  | some c => return c == '-'
  | none => return false

/-- Decimal digits without leading zeros. -/
def decimalDigits : Reader (List Char) := do
  if (← Reader.peek?) = some '0' then
    Reader.char '0'
    return ['0']
  else digits Char.isDigit

/-! ### Whole numbers -/

/-- The greatest signed 64-bit value. -/
def greatestInteger : Nat := 9223372036854775807

/-- A whole number with an optional sign, in base ten. -/
def decimalInteger : Reader Int := do
  let negative ← sign
  let n := valueOf 10 (← decimalDigits)
  if negative then
    if n ≤ greatestInteger + 1 then return -(n : Int) else failure
  else
    if n ≤ greatestInteger then return (n : Int) else failure

/-- A whole number behind the mark of its base. -/
def basedInteger (mark : Char) (base : Nat) (isDigit : Char → Bool) : Reader Int := do
  Reader.word ['0', mark]
  let n := valueOf base (← digits isDigit)
  if n ≤ greatestInteger then return (n : Int) else failure

/-- **A whole number.** -/
def integer : Reader Int :=
  basedInteger 'x' 16 Text.isHexDigit <|> basedInteger 'o' 8 (fun c => '0' ≤ c && c ≤ '7') <|>
    basedInteger 'b' 2 (fun c => c == '0' || c == '1') <|> decimalInteger

/-! ### Real numbers -/

/-- The binary64 value nearest to `n * 10 ^ exponent`. Powers far beyond the format are not
computed. -/
def nearestDecimal (negative : Bool) (n : Nat) (exponent : Int) : Binary64 :=
  -- the value is below ten to this power, and not below a tenth of it
  let leading : Int := n.repr.length + exponent
  if n = 0 ∨ leading < -400 then Binary64.nearest negative 0 1
  else if 400 < leading then .infinite negative
  else Binary64.nearest negative (n * Nat.pow 10 exponent.toNat) (Nat.pow 10 (-exponent).toNat)

/-- The machine number of a value. -/
def machineNumber : Binary64 → Float
  | .finite negative magnitude => if negative then -magnitude.toFloat else magnitude.toFloat
  | .infinite negative => if negative then -(1 / 0) else 1 / 0
  | .nan => 0 / 0

/-- The decimals behind a point. -/
def fraction : Reader (List Char) := do
  Reader.char '.'
  digits Char.isDigit

/-- The exponent behind its mark. -/
def exponent : Reader Int := do
  discard (Reader.satisfy fun c => c == 'e' || c == 'E')
  let negative ← sign
  let n := valueOf 10 (← digits Char.isDigit)
  return if negative then -(n : Int) else n

/-- A real number with digits. One that is too great is refused, one that is too small is not. -/
def digitFloat : Reader Float := do
  let negative ← sign
  let whole ← decimalDigits
  let decimals ← optional fraction
  let power ← optional exponent
  if decimals.isNone ∧ power.isNone then failure
  let decimals := decimals.getD []
  let value := nearestDecimal negative (valueOf 10 (whole ++ decimals))
    (power.getD 0 - decimals.length)
  -- only the infinity without a sign is refused
  if value = .infinite false then failure else return machineNumber value

/-- An infinity, or what is no number. -/
def namedFloat : Reader Float := do
  let negative ← sign
  (do Reader.word ['i', 'n', 'f']; return machineNumber (.infinite negative)) <|>
    (do Reader.word ['n', 'a', 'n']; return machineNumber .nan)

/-- **A real number.** -/
def float : Reader Float := digitFloat <|> namedFloat

/-! ### Dates and times -/

/-- A number of so many decimal digits. -/
def fixedNumber : Nat → Nat → Reader Nat
  | 0, high => return high
  | n + 1, high => do
    let c ← Reader.satisfy Char.isDigit
    fixedNumber n (10 * high + Text.hexValue c)

/-- A number of two decimal digits between two bounds. -/
def twoDigits (least greatest : Nat) : Reader Nat := do
  let n ← fixedNumber 2 0
  if least ≤ n ∧ n ≤ greatest then return n else failure

/-- The days of a month. -/
def daysOf (year month : Nat) : Nat :=
  if month = 2 then
    if year % 4 = 0 ∧ (year % 100 ≠ 0 ∨ year % 400 = 0) then 29 else 28
  else if month = 4 ∨ month = 6 ∨ month = 9 ∨ month = 11 then 30
  else 31

/-- A date of the calendar. -/
def date : Reader Unit := do
  let year ← fixedNumber 4 0
  Reader.char '-'
  let month ← twoDigits 1 12
  Reader.char '-'
  let day ← twoDigits 1 31
  if daysOf year month < day then failure

/-- A time of the day, with a second for leap seconds. -/
def time : Reader Unit := do
  discard (twoDigits 0 23)
  Reader.char ':'
  discard (twoDigits 0 59)
  Reader.char ':'
  discard (twoDigits 0 60)
  discard (optional (do Reader.char '.'; Reader.takeWhile₁ Char.isDigit))

/-- How far a time is from universal time. -/
def offset : Reader Unit :=
  discard (Reader.satisfy fun c => c == 'Z' || c == 'z') <|> do
    discard (Reader.satisfy fun c => c == '+' || c == '-')
    discard (twoDigits 0 23)
    Reader.char ':'
    discard (twoDigits 0 59)

/-- A time behind a date. -/
def timeOfDate : Reader Unit := do
  discard (Reader.satisfy fun c => c == 'T' || c == 't' || c == ' ')
  time
  discard (optional offset)

/-- **A date, a time, or both.** -/
def dateTime : Reader Unit := (do date; discard (optional timeOfDate)) <|> time

end DivisionBenchmark.Toml

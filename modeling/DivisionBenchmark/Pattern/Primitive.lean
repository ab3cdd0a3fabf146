import DivisionBenchmark.Pattern.Part
import DivisionBenchmark.Text.Numeral

/-!
# Characters of patterns

The smallest parts of a pattern: a character that stands for itself, or a backslash and what it
makes of the characters behind it.

Patterns know the characters of Unicode, but not their classes and not their case. So there are
classes by a letter only among bytes, and where case is ignored no character can stand for itself
but among bytes. Bytes in turn are only those of ASCII, as a text is matched by whole characters.

Main definitions:

* `DivisionBenchmark.Pattern.Primitive`: the smallest parts;
* `DivisionBenchmark.Pattern.primitive`: their reader;
* `DivisionBenchmark.Pattern.Primitive.stands`, `DivisionBenchmark.Pattern.Primitive.standsInSet`:
  where they may stand.
-/

namespace DivisionBenchmark.Pattern

/-- **The smallest part of a pattern.** -/
inductive Primitive where
  /-- A character that stands for itself, and whether it is given as the number of a byte. -/
  | character (c : Char) (asByte : Bool)
  /-- A class by its letter: digits, blanks or word characters, or all but them. -/
  | shorthand (negated : Bool)
  /-- The beginning or the end of the text. -/
  | bound
  /-- A place where a word begins or ends, or a place where none does. -/
  | wordBound
  deriving DecidableEq, Repr

/-- The number that so many hexadecimal digits stand for, behind those that stand for `high`. -/
def hexNumber : Nat → Nat → Reading Nat
  | 0, high => return high
  | n + 1, high => do
    space
    let c ← Reader.satisfy Text.isHexDigit
    hexNumber n (16 * high + Text.hexValue c)

/-- A character by its number, which has so many hexadecimal digits. -/
def numbered (digits : Nat) (asByte : Bool) : Reading Primitive := do
  let n ← hexNumber digits 0
  if n.isValidChar then return .character (Char.ofNat n) asByte else failure

/-- What stands behind a backslash. -/
def escape : Reading Primitive := do
  match ← next with
  | 'x' => numbered 2 true
  | 'u' => numbered 4 false
  | 'U' => numbered 8 false
  | 'd' | 's' | 'w' => return .shorthand false
  | 'D' | 'S' | 'W' => return .shorthand true
  | 'A' | 'z' => return .bound
  | 'b' | 'B' | '<' | '>' => return .wordBound
  | 'a' => return .character (Char.ofNat 0x07) false
  | 't' => return .character '\t' false
  | 'n' => return .character '\n' false
  | 'v' => return .character (Char.ofNat 0x0B) false
  | 'f' => return .character (Char.ofNat 0x0C) false
  | 'r' => return .character '\r' false
  | c =>
    -- whatever else is no letter and no digit stands for itself
    if c.toNat < 0x80 ∧ ¬ c.isAlphanum then return .character c false else failure

/-- **A character, or a backslash and what belongs to it.** -/
def primitive : Reading Primitive := do
  match ← next with
  | '\\' => escape
  | c => return .character c false

/-- Whether a primitive may stand by itself. -/
def Primitive.stands (flags : Flags) : Primitive → Bool
  | .character c asByte =>
    if flags.unicode then ! flags.ignoresCase else ! asByte || c.toNat < 0x80
  | .shorthand negated => ! flags.unicode && ! negated
  | .bound => true
  | .wordBound => ! flags.unicode

/-- Whether a primitive may stand in a set of characters. -/
def Primitive.standsInSet (flags : Flags) : Primitive → Bool
  | .character c _ => if flags.unicode then ! flags.ignoresCase else c.toNat < 0x80
  | .shorthand negated => ! flags.unicode && ! negated
  | .bound | .wordBound => false

end DivisionBenchmark.Pattern

import DivisionBenchmark.Pattern.Syntax
import DivisionBenchmark.Text.Alphanumeric
import DivisionBenchmark.Text.Blank
import DivisionBenchmark.Text.Cut
import DivisionBenchmark.Text.Numeral
import DivisionBenchmark.Text.Split

/-!
# Log filters

What is logged is said by directives between commas. A directive names a target, a span in square
brackets with a field in braces, or both, and a level behind an equals sign; a level or a target may
also stand alone. A field may have a value, which is a number or a pattern. Here it is only told
whether a text is a filter.

A directive may have blanks around it, but they are not passed over cleanly. Where its parts begin
and end is found as if the blanks were not there, and the parts are then cut out of the directive
with its blanks: those before it move every part, and those behind it belong to the level. So a
directive with an equals sign and blanks is as a rule refused, and a place may even fall inside a
character, which ends the program.

Main definitions:

* `DivisionBenchmark.LogFilter.Flaw`: why a text is no filter;
* `DivisionBenchmark.LogFilter.check`: whether it is one.
-/

namespace DivisionBenchmark.LogFilter

/-- **Why a text is no filter.** -/
inductive Flaw where
  /-- It is no sequence of directives. -/
  | malformed
  /-- A part of it would begin or end inside a character. -/
  | torn
  deriving DecidableEq, Repr

/-! ### Fields -/

/-- A number, with a sign, decimals and an exponent if it has them, or the name of infinity or of
what is no number. -/
def number : Reader Unit := do
  discard (optional (Reader.satisfy fun c => c == '+' || c == '-'))
  let name ← Reader.takeWhile Char.isAlpha
  if ["inf", "infinity", "nan"].contains (String.ofList (name.map Char.toLower)) then Reader.atEnd
  else if ! name.isEmpty then failure
  else
    let whole ← Reader.takeWhile Char.isDigit
    discard (optional (Reader.char '.'))
    let decimals ← Reader.takeWhile Char.isDigit
    if whole.isEmpty ∧ decimals.isEmpty then failure
    if (← optional (Reader.satisfy fun c => c == 'e' || c == 'E')).isSome then
      discard (optional (Reader.satisfy fun c => c == '+' || c == '-'))
      discard (Reader.takeWhile₁ Char.isDigit)
    Reader.atEnd

/-- Whether a text is a value of a field. -/
def isValue (text : List Char) : Bool := (number text).isSome || Pattern.isPattern text

/-- Whether a text is a field: a name, with a value behind an equals sign if it has one. What stands
behind a second equals sign does not matter. -/
def isField (text : List Char) : Bool :=
  match Text.splitOn '=' text with
  | _ :: value :: _ => isValue value
  | _ => ! text.isEmpty

/-! ### Levels -/

/-- The names of the levels. -/
def levels : List String := ["error", "warn", "info", "debug", "trace", "off"]

/-- Whether a text is a level: a name, a number up to five, or nothing. -/
def isLevel (text : List Char) : Bool :=
  text.isEmpty || levels.contains (String.ofList (text.map Char.toLower)) ||
    match Text.readCount text with
    | .ok n => n ≤ 5
    | .error _ => false

/-! ### Directives -/

/-- **What part of a directive is being read**, with the place where it begins if that matters. -/
inductive Part where
  /-- Nothing was read. -/
  | start
  /-- A target, or a level alone. -/
  | target
  /-- The name of a span. -/
  | span (first : Nat)
  /-- A field. -/
  | field (first : Nat)
  /-- The closing bracket after the fields. -/
  | closing
  /-- What follows a span. -/
  | complete
  /-- A level. -/
  | level (first : Nat)
  deriving DecidableEq, Repr

/-- Whether a directive may begin with a character: a letter, a number, a hyphen, a colon or an
underscore. -/
def mayBegin (c : Char) : Bool := c == '-' || c == ':' || c == '_' || Text.isAlphanumeric c

/-- The part of a text from one place to another. -/
def cut (text : List Char) (first last : Nat) : Except Flaw (List Char) :=
  match Text.cut? first last text with
  | some part => .ok part
  | none => .error .torn

/-- A condition that a directive must fulfil. -/
def ensure (condition : Bool) : Except Flaw Unit :=
  if condition then .ok () else .error .malformed

/-- What part of a directive is read after one more character, which stands at a place. -/
def Part.step (text : List Char) (place : Nat) (part : Part) (c : Char) : Except Flaw Part := do
  match part, c with
  | .start, '[' => return .span (place + 1)
  | .start, c =>
    ensure (mayBegin c)
    return .target
  | .target, '=' =>
    discard (cut text 0 place)
    return .level (place + 1)
  | .target, '[' =>
    discard (cut text 0 place)
    return .span (place + 1)
  | .target, _ => return .target
  | .span first, ']' =>
    discard (cut text first place)
    return .complete
  | .span first, '\x7b' =>
    discard (cut text first place)
    return .field (place + 1)
  | .span first, _ => return .span first
  | .field first, '\x7d' =>
    ensure (isField (← cut text first place))
    return .closing
  | .field first, _ => return .field first
  | .closing, ']' => return .complete
  | .closing, _ => throw .malformed
  | .complete, '=' => return .level (place + 1)
  | .complete, _ => throw .malformed
  | .level first, _ => return .level first

/-- What part of a directive is read after more characters, the first of which stands at a place. -/
def Part.after (text : List Char) : Nat → Part → List Char → Except Flaw Part
  | _, part, [] => .ok part
  | place, part, c :: cs => do
    let part ← part.step text place c
    Part.after text (place + c.utf8Size) part cs

/-- Whether a directive may end after a part. -/
def Part.finish (text : List Char) : Part → Except Flaw Unit
  | .target | .complete => .ok ()
  | .level first => do
    let level ← cut text first (Text.byteSize text)
    ensure (isLevel level)
  | .start | .span _ | .field _ | .closing => .error .malformed

/-- Whether a text is a directive. -/
def checkDirective (text : List Char) : Except Flaw Unit := do
  let part ← Part.after text 0 .start (Text.trim text)
  part.finish text

/-- **Whether a text is a filter**: a sequence of directives, of which some may be empty. The first
flaw from the left is the one that counts. -/
def check (text : String) : Except Flaw Unit :=
  ((Text.splitOn ',' text.toList).filter (! ·.isEmpty)).forM checkDirective

end DivisionBenchmark.LogFilter

import DivisionBenchmark.Text.Blank
import DivisionBenchmark.Text.Reader

/-!
# Parts of patterns

A pattern, or regular expression, describes texts. Here it is only told whether a text is a pattern,
and so of a part of one no more is kept than that question needs: how deeply it is nested, and the
names it gives to groups.

How a part is read depends on the flags in force, which the pattern itself sets and takes away: a
reader of patterns carries them along.

Main definitions:

* `DivisionBenchmark.Pattern.Part`: what is kept of a part;
* `DivisionBenchmark.Pattern.Flags`: the flags that bear on what is a pattern;
* `DivisionBenchmark.Pattern.Reading`: the readers that carry flags.
-/

namespace DivisionBenchmark.Pattern

/-- **What is kept of a part of a pattern.** -/
structure Part where
  /-- How many parts are nested in one another. -/
  depth : Nat := 0
  /-- The names given to groups. -/
  names : List (List Char) := []
  /-- Whether it stands for something, so that it can be repeated. -/
  repeatable : Bool := true
  deriving DecidableEq, Repr

/-- A part within another. -/
def Part.deeper (part : Part) : Part := ⟨part.depth + 1, part.names, true⟩

/-- Several parts as one: a single part is left as it is. -/
def Part.several : List Part → Part
  | [] => {}
  | [part] => { part with repeatable := true }
  | parts =>
    ⟨parts.foldl (fun depth part => max depth part.depth) 0 + 1, parts.flatMap (·.names), true⟩

/-- **The flags that bear on what is a pattern.** -/
structure Flags where
  /-- A letter stands for both its cases. -/
  ignoresCase : Bool := false
  /-- What is matched are characters, and not bytes. -/
  unicode : Bool := true
  /-- Blanks and comments stand for nothing. -/
  spaced : Bool := false
  deriving DecidableEq, Repr

/-- Flags with that of a letter set or taken away. -/
def Flags.set (value : Bool) (flags : Flags) : Char → Flags
  | 'i' => { flags with ignoresCase := value }
  | 'u' => { flags with unicode := value }
  | 'x' => { flags with spaced := value }
  -- the others change what is matched and not what is a pattern
  | _ => flags

/-- Flags changed by letters; those behind a hyphen take flags away. -/
def Flags.change (flags : Flags) (letters : List Char) : Flags :=
  let added := letters.takeWhile (· != '-')
  let removed := letters.dropWhile (· != '-')
  removed.foldl (Flags.set false) (added.foldl (Flags.set true) flags)

/-- Whether no element of a list occurs in it again. -/
def distinct {α : Type} [BEq α] : List α → Bool
  | [] => true
  | a :: rest => ! rest.contains a && distinct rest

/-- Whether letters name flags: none is named twice, and a hyphen has letters behind it. -/
def areFlags (letters : List Char) : Bool :=
  letters.all ("imsUuRx-".toList.contains ·) && distinct letters && letters.getLast? != some '-'

/-! ### Reading -/

/-- **A reader that carries flags.** -/
abbrev Reading := StateT Flags Reader

/-- Whether something is there; if it is, it is taken. -/
def taken (reader : Reader Unit) : Reading Bool := do
  match ← (optional reader : Reader (Option Unit)) with
  | some _ => return true
  | none => return false

/-- Whether something is there where it is asked for; if it is, it is taken. -/
def takenIf (asked : Bool) (reader : Reader Unit) : Reading Bool :=
  if asked then taken reader else return false

/-- The next character. -/
def next : Reader Char := Reader.satisfy fun _ => true

/-- What is left of a text without the blanks and the comments it begins with. -/
def dropSpace (inComment : Bool) : List Char → List Char
  | [] => []
  | c :: cs =>
    if inComment then dropSpace (c != '\n') cs
    else if Text.isBlank c then dropSpace false cs
    else if c = '#' then dropSpace true cs
    else c :: cs

/-- What may stand between parts: blanks and comments, where they stand for nothing. -/
def space : Reading Unit := do
  let dropped : Reader Unit := fun cs => some ((), dropSpace false cs)
  if (← get).spaced then dropped

end DivisionBenchmark.Pattern

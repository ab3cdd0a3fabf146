/-!
# Readers

A reader takes something from the front of a text, or fails. A reader that fails has taken nothing,
so another can be tried in its place.

Main definitions:

* `DivisionBenchmark.Reader`: the readers;
* `DivisionBenchmark.Reader.char`, `DivisionBenchmark.Reader.word`,
  `DivisionBenchmark.Reader.takeWhile`: readers of given text and of runs;
* `DivisionBenchmark.Reader.many`, `DivisionBenchmark.Reader.separated`: readers of sequences.
-/

namespace DivisionBenchmark

/-- **A reader** of the front of a text. -/
abbrev Reader := StateT (List Char) Option

namespace Reader

variable {α : Type}

/-- The next character, which stays where it is. -/
def peek? : Reader (Option Char) := fun cs => some (cs.head?, cs)

/-- A character with a property. -/
def satisfy (p : Char → Bool) : Reader Char := fun cs =>
  match cs with
  | c :: rest => if p c then some (c, rest) else none
  | [] => none

/-- A given character. -/
def char (c : Char) : Reader Unit := discard (satisfy (· == c))

/-- A given text. -/
def word (text : List Char) : Reader Unit := fun cs =>
  if text.isPrefixOf cs then some ((), cs.drop text.length) else none

/-- The longest run of characters with a property, which may be empty. -/
def takeWhile (p : Char → Bool) : Reader (List Char) := fun cs =>
  some (cs.takeWhile p, cs.dropWhile p)

/-- The longest run of characters with a property, which is not empty. -/
def takeWhile₁ (p : Char → Bool) : Reader (List Char) := do
  let first ← satisfy p
  return first :: (← takeWhile p)

/-- What is read again and again, at most so many times. -/
def manyUpTo (reader : Reader α) : Nat → Reader (List α)
  | 0 => return []
  | n + 1 => do
    match ← optional reader with
    | some a => return a :: (← manyUpTo reader n)
    | none => return []

/-- What is read again and again until the reader fails. The reader must take something each
time. -/
def many (reader : Reader α) : Reader (List α) := fun cs => manyUpTo reader cs.length cs

/-- What is read between separators, at least once. A separator belongs to what comes after it. -/
def separated (reader : Reader α) (separator : Reader Unit) : Reader (List α) := do
  let first ← reader
  return first :: (← many (do separator; reader))

/-- Nothing, at the end of the text. -/
def atEnd : Reader Unit := fun cs => if cs.isEmpty then some ((), cs) else none

end Reader

end DivisionBenchmark

import DivisionBenchmark.Number.Shortest

/-!
# JSON documents

Documents of the JSON data format, and their texts. A document has one text for each layout: the
compact one is a single line without spaces, the pretty one has an item on each line.

Main definitions:

* `DivisionBenchmark.Json`: the documents;
* `DivisionBenchmark.Json.quoted`: a string as a literal;
* `DivisionBenchmark.Json.realText`: a binary64 number as a literal;
* `DivisionBenchmark.Json.Layout`: what stands between the tokens of a document;
* `DivisionBenchmark.Json.write`: the text of a document in a layout.

A real number is written with the fewest digits that read back: with all its places as long as its
leading digit stands not more than sixteen places before the point and not more than five behind
it, else with an exponent. What is no number is written as nothing.
-/

namespace DivisionBenchmark

/-- **A JSON document.** -/
inductive Json where
  /-- Nothing. -/
  | null
  /-- A whole number that is not negative. -/
  | count (n : Nat)
  /-- A binary64 number. -/
  | real (x : Float)
  /-- A string. -/
  | string (s : String)
  /-- Documents in a sequence. -/
  | array (items : List Json)
  /-- Documents under keys, in their order. -/
  | object (fields : List (String × Json))

namespace Json

/-! ### Literals -/

/-- A lower-case hexadecimal digit. -/
def hexDigit (n : Nat) : Char :=
  if n < 10 then Char.ofNat (48 + n) else Char.ofNat (87 + n)

/-- A character as it stands in a literal. Quotes, backslashes and control characters are
escaped. -/
def escaped (c : Char) : List Char :=
  match c.toNat with
  | 0x22 => ['\\', '"']
  | 0x5C => ['\\', '\\']
  | 0x08 => ['\\', 'b']
  | 0x09 => ['\\', 't']
  | 0x0A => ['\\', 'n']
  | 0x0C => ['\\', 'f']
  | 0x0D => ['\\', 'r']
  | n =>
    if n < 0x20 then ['\\', 'u', '0', '0', hexDigit (n / 16), hexDigit (n % 16)] else [c]

/-- A string as a literal. -/
def quoted (s : String) : List Char := '"' :: (s.toList.flatMap escaped ++ ['"'])

/-- The least exponent of ten of a number that is written with all its places. -/
def leastMagnitude : Int := -5

/-- The greatest exponent of ten of a number that is written with all its places. -/
def greatestMagnitude : Int := 15

/-- The magnitude of a number, as a literal. -/
def magnitudeText (x : Dyadic) : String :=
  let decimal := x.shortest .even
  if leastMagnitude ≤ decimal.magnitude ∧ decimal.magnitude ≤ greatestMagnitude then
    decimal.positionalReal
  else decimal.scientific

/-- A binary64 number as a literal. -/
def realText (x : Float) : String :=
  match Binary64.ofFloat x with
  | .finite negative magnitude => Binary64.signText negative ++ magnitudeText magnitude
  | _ => "null"

/-! ### Documents -/

/-- **What stands between the tokens of a document.** -/
structure Layout where
  /-- What stands before an item, or before the bracket that closes them, at a depth. -/
  newLine : Nat → List Char
  /-- What stands between the colon after a key and the document under it. -/
  gap : List Char

/-- The layout with nothing between tokens. -/
def Layout.compact : Layout := ⟨fun _ => [], []⟩

/-- The layout with a line for each item, indented by two spaces for each depth. -/
def Layout.pretty : Layout := ⟨fun depth => '\n' :: List.replicate (2 * depth) ' ', [' ']⟩

mutual

/-- **The text of a document** in a layout, at a depth. -/
def write (layout : Layout) (depth : Nat) : Json → List Char
  | null => "null".toList
  | count n => n.repr.toList
  | real x => (realText x).toList
  | string s => quoted s
  | array [] => ['[', ']']
  | array (item :: items) =>
    '[' :: (layout.newLine (depth + 1) ++ write layout (depth + 1) item ++
      writeItems layout (depth + 1) items ++ layout.newLine depth ++ [']'])
  | object [] => ['\x7b', '\x7d']
  | object (field :: fields) =>
    '\x7b' :: (layout.newLine (depth + 1) ++ writeField layout (depth + 1) field ++
      writeFields layout (depth + 1) fields ++ layout.newLine depth ++ ['\x7d'])

/-- The text of the items behind the first. -/
def writeItems (layout : Layout) (depth : Nat) : List Json → List Char
  | [] => []
  | item :: items =>
    ',' :: (layout.newLine depth ++ write layout depth item ++ writeItems layout depth items)

/-- The text of a field. -/
def writeField (layout : Layout) (depth : Nat) : String × Json → List Char
  | (key, document) => quoted key ++ ':' :: (layout.gap ++ write layout depth document)

/-- The text of the fields behind the first. -/
def writeFields (layout : Layout) (depth : Nat) : List (String × Json) → List Char
  | [] => []
  | field :: fields =>
    ',' :: (layout.newLine depth ++ writeField layout depth field ++
      writeFields layout depth fields)

end

/-- The text of a document on one line. -/
def compact (document : Json) : String := String.ofList (document.write Layout.compact 0)

/-- The text of a document spread over lines. -/
def pretty (document : Json) : String := String.ofList (document.write Layout.pretty 0)

end Json

end DivisionBenchmark

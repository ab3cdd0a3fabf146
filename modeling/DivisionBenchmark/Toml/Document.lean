import DivisionBenchmark.Toml.Number
import DivisionBenchmark.Toml.Table

/-!
# TOML documents

A document is read in two steps. Its lines are headers, which name a table, and assignments, which
put a value under a key; from them the tables are built one after the other.

Main definitions:

* `DivisionBenchmark.Toml.value`: the reader of values, nested up to a depth;
* `DivisionBenchmark.Toml.Line`, `DivisionBenchmark.Toml.lines`: the lines of a document that say
  something, and their reader;
* `DivisionBenchmark.Toml.parse`: the fields of a document.
-/

namespace DivisionBenchmark.Toml

/-! ### Values -/

/-- An array of values: they stand between commas, with room around them, and there may be a comma
behind the last. -/
def arrayOf (item : Reader Value) : Reader Value := do
  Reader.char '['
  let items ← optional <|
    Reader.separated (do gap; let v ← item; gap; return v) (Reader.char ',')
  if items.isSome then discard (optional (Reader.char ','))
  gap
  Reader.char ']'
  return .array .listed (items.getD [])

/-- A key with its value. -/
def assignment (item : Reader Value) : Reader (List String × Value) := do
  let names ← key
  Reader.char '='
  blanks
  let v ← item
  return (names, v)

/-- The fields with a value under the names of a key, the last of which is its own. -/
def Fields.assignKey (fields : Fields) (names : List String) (v : Value) : Option Fields := do
  let last ← names.getLast?
  fields.assign true names.dropLast last v

/-- The fields that assignments make, one after the other. -/
def Fields.ofAssignments (assignments : List (List String × Value)) : Option Fields :=
  assignments.foldlM (fun fields (names, v) => Fields.assignKey fields names v) []

/-- A table on one line: assignments between commas. -/
def inlineTableOf (item : Reader Value) : Reader Value := do
  Reader.char '\x7b'
  let assignments ← optional <|
    Reader.separated (do let a ← assignment item; blanks; return a) (Reader.char ',')
  blanks
  Reader.char '\x7d'
  let fields ← (Fields.ofAssignments (assignments.getD []) : Option Fields)
  return .table .inline fields

/-- A truth value. -/
def boolean : Reader Bool :=
  (do Reader.word "true".toList; return true) <|>
    (do Reader.word "false".toList; return false)

/-- A value that holds no other. -/
def scalar : Reader Value :=
  (do return .string (← string)) <|> (do return .boolean (← boolean)) <|>
    (do dateTime; return .dateTime) <|> (do return .float (← float)) <|>
    (do return .integer (← integer))

/-- **A value** that holds others within others, at most as many as the depth says. -/
def value : Nat → Reader Value
  | 0 => scalar
  | depth + 1 => arrayOf (value depth) <|> inlineTableOf (value depth) <|> scalar

/-! ### Lines -/

/-- **A line that says something.** -/
inductive Line where
  /-- The lines below are about this table. -/
  | table (names : List String)
  /-- The lines below are about another table of this array. -/
  | row (names : List String)
  /-- A value is under this key. -/
  | assign (names : List String) (value : Value)

/-- A line that opens another table of an array. -/
def rowHeader : Reader Line := do
  Reader.word ['[', '[']
  let names ← key
  Reader.word [']', ']']
  return .row names

/-- A line that opens a table. -/
def tableHeader : Reader Line := do
  Reader.char '['
  let names ← key
  Reader.char ']'
  return .table names

/-- A line that puts a value under a key. -/
def assignmentLine : Reader Line := do
  let (names, v) ← assignment (value (depthLimit - 1))
  return .assign names v

/-- A line with its end. One that says nothing is blank but for a comment. -/
def line : Reader (Option Line) := do
  let statement ← optional (rowHeader <|> tableHeader <|> assignmentLine)
  lineRest
  blanks
  return statement

/-- Whether a text is at its end. -/
def exhausted : Reader Bool := fun cs => some (cs.isEmpty, cs)

/-- The lines of a text, of which there are at most so many. -/
def linesUpTo : Nat → Reader (List Line)
  | 0 => do
    Reader.atEnd
    return []
  | n + 1 => do
    if ← exhausted then return []
    else
      let first ← line
      let rest ← linesUpTo n
      return first.toList ++ rest

/-- The mark of the byte order that may stand before a document. -/
def byteOrderMark : Char := Char.ofNat 0xFEFF

/-- **The lines of a document.** -/
def lines : Reader (List Line) := do
  discard (optional (Reader.char byteOrderMark))
  blanks
  fun cs => linesUpTo (cs.length + 1) cs

/-! ### Documents -/

/-- A document while it is built: its fields, and the names of the table the next lines are
about. -/
structure Building where
  /-- What was built. -/
  fields : Fields
  /-- Where the next assignment goes. -/
  current : List String

/-- What a line adds. -/
def Building.add (b : Building) : Line → Option Building
  | .table names => do
    let last ← names.getLast?
    return ⟨← b.fields.within names.dropLast (Fields.openTable last), names⟩
  | .row names => do
    let last ← names.getLast?
    return ⟨← b.fields.within names.dropLast (Fields.openRow last), names⟩
  | .assign names v => do
    return ⟨← b.fields.within b.current fun fields => fields.assignKey names v, b.current⟩

/-- **The fields of a document**, where it is one. -/
def parse (text : String) : Option Fields := do
  let (lines, rest) ← lines.run text.toList
  if rest.isEmpty then
    let built ← lines.foldlM Building.add ⟨[], []⟩
    return built.fields
  else none

end DivisionBenchmark.Toml

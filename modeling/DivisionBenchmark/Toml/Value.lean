/-!
# TOML values

The values of the TOML configuration format. A table keeps its fields in the order in which they
were written. Tables and arrays also keep how they were written, because that decides whether later
lines of a document may add to them.

Main definition: `DivisionBenchmark.Toml.Value`.
-/

namespace DivisionBenchmark.Toml

/-- **How a table came to be.** -/
inductive TableKind where
  /-- It was written between braces; nothing can be added to it. -/
  | inline
  /-- A header of its own opened it. -/
  | headed
  /-- A header below it passed through it; a header of its own may still open it. -/
  | passed
  /-- A dotted key passed through it; further dotted keys may add to it. -/
  | dotted
  deriving DecidableEq, Repr

/-- **How an array came to be.** -/
inductive ArrayKind where
  /-- It was written between brackets; nothing can be added to it. -/
  | listed
  /-- Headers in double brackets opened its tables, one after the other. -/
  | rows
  deriving DecidableEq, Repr

/-- **A TOML value.** Nothing here is done with a date or a time, so one is like another. -/
inductive Value where
  /-- A text. -/
  | string (text : String)
  /-- A whole number. -/
  | integer (n : Int)
  /-- A binary64 number. -/
  | float (x : Float)
  /-- A truth value. -/
  | boolean (b : Bool)
  /-- A date, a time, or both. -/
  | dateTime
  /-- Values in a sequence. -/
  | array (kind : ArrayKind) (items : List Value)
  /-- Values under keys. -/
  | table (kind : TableKind) (fields : List (String × Value))
  deriving Inhabited

/-- The fields of a table. -/
abbrev Fields := List (String × Value)

/-- The value under a key. -/
def Fields.get? (fields : Fields) (key : String) : Option Value :=
  (fields.find? fun field => field.1 == key).map (·.2)

/-- The fields with another value under a key that is there. -/
def Fields.replace (fields : Fields) (key : String) (value : Value) : Fields :=
  fields.map fun field => if field.1 = key then (key, value) else field

/-- The fields without the one under a key. -/
def Fields.remove (fields : Fields) (key : String) : Fields :=
  fields.filter fun field => field.1 != key

end DivisionBenchmark.Toml

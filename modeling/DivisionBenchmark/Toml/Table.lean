import DivisionBenchmark.Toml.Value

/-!
# Building tables

How lines of a document add to its tables. A key with several names passes through tables, which it
makes where there are none. Which tables it may pass through depends on how they came to be: a
dotted key stays within tables that dotted keys made, a header passes through everything but values
and adds to the latest table of an array of tables.

Main definitions:

* `DivisionBenchmark.Toml.Fields.assign`: a value put under a dotted key;
* `DivisionBenchmark.Toml.Fields.within`: a change to the table that a header's names lead to;
* `DivisionBenchmark.Toml.Fields.openTable`, `DivisionBenchmark.Toml.Fields.openRow`: what a header
  does before the lines below it.

Each fails where a key would mean two things.
-/

namespace DivisionBenchmark.Toml

namespace Fields

/-- A change to the last item of an array, where it is a table. -/
def inLastRow (change : Fields → Option Fields) (items : List Value) : Option (List Value) :=
  match items.reverse with
  | .table kind fields :: before => do
    return (.table kind (← change fields) :: before).reverse
  | _ => none

/-- The fields with a value under a new key. -/
def insertNew (fields : Fields) (key : String) (value : Value) : Option Fields :=
  if (fields.get? key).isSome then none else some (fields ++ [(key, value)])

/-- **The fields with a value under a dotted key**, given by the names it passes through and its
last name. Whether the fields are those of a table to which dotted keys may add is told along the
way: it is so in the table the key starts from, and in the tables that dotted keys made. -/
def assign (mayAdd : Bool) (fields : Fields) : List String → String → Value → Option Fields
  | [], key, value => if mayAdd then fields.insertNew key value else none
  | name :: names, key, value =>
    match fields.get? name with
    | none => do
      -- the tables of the names that are left are made on the way
      let inner ← assign true [] names key value
      return fields ++ [(name, .table .dotted inner)]
    | some (.table kind inner) =>
      if kind = .passed ∨ kind = .dotted then do
        let inner ← assign (kind = .dotted) inner names key value
        return fields.replace name (.table kind inner)
      else none
    | some (.array .rows items) => do
      -- a header made this table: only tables within it may be added to
      let items ← inLastRow (fun inner => assign false inner names key value) items
      return fields.replace name (.array .rows items)
    | some _ => none

/-- **The fields with a change to the table that names lead to.** Tables are made where there are
none; of an array of tables it is the latest. -/
def within (fields : Fields) : List String → (Fields → Option Fields) → Option Fields
  | [], change => change fields
  | name :: names, change =>
    match fields.get? name with
    | none => do
      let inner ← within [] names change
      return fields ++ [(name, .table .passed inner)]
    | some (.table kind inner) =>
      if kind = .inline then none
      else do
        let inner ← within inner names change
        return fields.replace name (.table kind inner)
    | some (.array .rows items) => do
      let items ← inLastRow (fun inner => within inner names change) items
      return fields.replace name (.array .rows items)
    | some _ => none

/-- The fields with a table opened under a key. A table that headers only passed through is opened
with what is in it already, and moves behind the other fields. -/
def openTable (key : String) (fields : Fields) : Option Fields :=
  match fields.get? key with
  | none => some (fields ++ [(key, .table .headed [])])
  | some (.table .passed inner) => some (fields.remove key ++ [(key, .table .headed inner)])
  | some _ => none

/-- The fields with another table in the array of tables under a key. -/
def openRow (key : String) (fields : Fields) : Option Fields :=
  match fields.get? key with
  | none => some (fields ++ [(key, .array .rows [.table .headed []])])
  | some (.array .rows items) =>
    some (fields.replace key (.array .rows (items ++ [.table .headed []])))
  | some _ => none

end Fields

end DivisionBenchmark.Toml

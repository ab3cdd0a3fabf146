import DivisionBenchmark.Count
import DivisionBenchmark.Text.Blank
import DivisionBenchmark.Text.Numeral
import DivisionBenchmark.Text.Split

/-!
# Core lists

The processor cores trials are pinned to are written as numbers and ranges between commas, such as
`0,2-4,7`. A list stands for a set: the cores come out ascending and without repetition. There is no
list of more cores than can be kept together.

Main definitions:

* `DivisionBenchmark.CoreList.Error`: what can be wrong with a list;
* `DivisionBenchmark.CoreList.read`: the rows of consecutive cores a text stands for;
* `DivisionBenchmark.CoreList.parse`: the cores a text stands for;
* `DivisionBenchmark.CoreList.leastFrom?`: the least core that is not below a number;
* `DivisionBenchmark.CoreList.pinnable`: whether a list of cores can be handed to the scheduler.
-/

namespace DivisionBenchmark.CoreList

/-- **What is wrong with a core list.** -/
inductive Error where
  /-- A core is not written as a number. -/
  | badNumber (text : String) (cause : Text.NumeralError)
  /-- A range ends before it starts. -/
  | backwards (first last : Nat)
  /-- There is no core in the list. -/
  | empty
  /-- A core has no place in the scheduler's set of cores. -/
  | tooLarge (core : Nat)
  /-- The cores are too many to be kept together. -/
  | faulted (fault : Fault)
  deriving DecidableEq, Repr

/-- The texts an error is reported with, the outermost first. -/
def Error.chain : Error → List String
  | .badNumber text cause => [s!"Invalid CPU core number: {text}", cause.message]
  | .backwards first last => [s!"Invalid CPU range: start ({first}) > end ({last})"]
  | .empty => ["CPU core list cannot be empty"]
  | .tooLarge core => [s!"CPU core ID {core} is too large (max 1023)"]
  | .faulted fault => [fault.message]

/-! ### Reading -/

/-- The core a text stands for, blanks around the number aside. -/
def readCore (text : List Char) : Except Error Nat :=
  (Text.readCount (Text.trim text)).mapError (.badNumber (String.ofList text))

/-- **Cores in a row.** -/
structure Row where
  /-- The first of them. -/
  first : Nat
  /-- How many there are. -/
  size : Nat
  deriving DecidableEq, Repr

/-- The cores of a row, ascending. -/
def Row.cores (row : Row) : List Nat := List.range' row.first row.size

/-- The cores one part of a list stands for: a number, or two numbers around the first hyphen. -/
def readPart (part : List Char) : Except Error Row :=
  match Text.splitOnce? '-' part with
  | some (before, after) => do
    let first ← readCore before
    let last ← readCore after
    if last < first then .error (.backwards first last)
    else .ok ⟨first, last - first + 1⟩
  | none => do
    let core ← readCore part
    return ⟨core, 1⟩

/-- The cores the parts of a list stand for, part by part, behind so many that were read before.
Nothing is looked at behind a part with which the cores are too many. -/
def readParts (size : Nat) : List (List Char) → Except Error (List Row)
  | [] => .ok []
  | part :: parts => do
    let row ← readPart part
    if Count.capacity ≤ size + row.size then .error (.faulted .capacityOverflow)
    else
      let rows ← readParts (size + row.size) parts
      return row :: rows

/-- **The rows of cores a text stands for**, in the order in which they are written. -/
def read (text : String) : Except Error (List Row) := do
  let rows ← readParts 0 ((Text.splitOn ',' text.toList).map Text.trim)
  if rows.isEmpty then .error .empty else .ok rows

/-! ### The cores of a list -/

/-- An ascending list without its repetitions. -/
def dropRepeats : List Nat → List Nat
  | a :: b :: rest => if a = b then dropRepeats (b :: rest) else a :: dropRepeats (b :: rest)
  | rest => rest

/-- The cores of rows, ascending and without repetition. -/
def coresOf (rows : List Row) : List Nat := dropRepeats (rows.flatMap Row.cores).mergeSort

/-- **The cores a text stands for**, ascending and without repetition. -/
def parse (text : String) : Except Error (List Nat) := (read text).map coresOf

/-- The least core of a row from a number on. -/
def Row.leastFrom? (bound : Nat) (row : Row) : Option Nat :=
  if max row.first bound < row.first + row.size then some (max row.first bound) else none

/-- The least core of rows from a number on. The rows may be long, and are not spelt out. -/
def leastFrom? (bound : Nat) (rows : List Row) : Option Nat :=
  (rows.filterMap (·.leastFrom? bound)).min?

/-! ### Pinning -/

/-- The scheduler's sets of cores hold the cores below this number. -/
def schedulerLimit : Nat := 1024

/-- Whether a list of cores can be handed to the scheduler: it names a core, and none beyond the
scheduler's sets. -/
def pinnable (cores : List Nat) : Except Error Unit :=
  if cores.isEmpty then .error .empty
  else
    match cores.find? (schedulerLimit ≤ ·) with
    | some core => .error (.tooLarge core)
    | none => .ok ()

/-! ### What is in a list -/

theorem mem_dropRepeats {core : Nat} (cores : List Nat) :
    core ∈ dropRepeats cores ↔ core ∈ cores := by
  fun_induction dropRepeats cores with
  | case1 a rest ih => simp [ih]
  | case2 a b rest h ih => simp [ih]
  | case3 => rfl

/-- The cores of rows are those that are in one of them. -/
theorem mem_coresOf {core : Nat} {rows : List Row} :
    core ∈ coresOf rows ↔ ∃ row ∈ rows, row.first ≤ core ∧ core < row.first + row.size := by
  rw [coresOf, mem_dropRepeats, List.mem_mergeSort, List.mem_flatMap]
  simp only [Row.cores, List.mem_range'_1]

/-- No core of a row is left from a number on exactly where all of them are below. -/
theorem Row.leastFrom?_eq_none_iff {bound : Nat} {row : Row} :
    row.leastFrom? bound = none ↔
      ∀ core, row.first ≤ core → core < row.first + row.size → core < bound := by
  unfold leastFrom?
  constructor
  · intro h core hfirst hlast
    split at h
    · cases h
    · omega
  · intro h
    split
    · rename_i hlt
      have := h (max row.first bound) (by omega) hlt
      omega
    · rfl

/-- **No core is left from a number on exactly where all of them are below.** -/
theorem leastFrom?_eq_none_iff {bound : Nat} {rows : List Row} :
    leastFrom? bound rows = none ↔ ∀ core ∈ coresOf rows, core < bound := by
  rw [leastFrom?, List.min?_eq_none_iff, List.filterMap_eq_nil_iff]
  simp only [Row.leastFrom?_eq_none_iff, mem_coresOf]
  constructor
  · rintro h core ⟨row, hrow, hfirst, hlast⟩
    exact h row hrow core hfirst hlast
  · intro h row hrow core hfirst hlast
    exact h core ⟨row, hrow, hfirst, hlast⟩

end DivisionBenchmark.CoreList

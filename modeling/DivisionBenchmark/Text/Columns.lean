/-!
# Columns

Texts filled up with spaces to the width of a column. What is wider already stays as it is.

Main definitions: `DivisionBenchmark.Text.alignLeft` and `DivisionBenchmark.Text.alignRight`.
-/

namespace DivisionBenchmark.Text

/-- So many spaces. -/
def spaces (count : Nat) : String := String.ofList (List.replicate count ' ')

/-- A text at the left of a column. -/
def alignLeft (width : Nat) (text : String) : String := text ++ spaces (width - text.length)

/-- A text at the right of a column. -/
def alignRight (width : Nat) (text : String) : String := spaces (width - text.length) ++ text

end DivisionBenchmark.Text

/-!
# Ranges of characters

A set of characters given by the first and last code points of its ranges, as the tables of a
character property are.
-/

namespace DivisionBenchmark.Text

/-- **Ranges of code points**, each with its first and its last. -/
abbrev Ranges := List (Nat × Nat)

/-- Whether a character is in one of the ranges. -/
def Ranges.contains (ranges : Ranges) (c : Char) : Bool :=
  ranges.any fun (first, last) => first ≤ c.toNat && c.toNat ≤ last

end DivisionBenchmark.Text

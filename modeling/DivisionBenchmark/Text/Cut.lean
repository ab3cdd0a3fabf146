/-!
# Cutting texts by bytes

A text cut at places that are counted in bytes of UTF-8. There is no cut inside a character.

Main definition: `DivisionBenchmark.Text.cut?`.
-/

namespace DivisionBenchmark.Text

/-- The two parts of a text before and behind so many bytes. -/
def cutAt? : Nat → List Char → Option (List Char × List Char)
  | 0, cs => some ([], cs)
  | _ + 1, [] => none
  | n + 1, c :: cs =>
    if c.utf8Size ≤ n + 1 then
      (cutAt? (n + 1 - c.utf8Size) cs).map fun (before, behind) => (c :: before, behind)
    else none

/-- The part of a text from one place to another. -/
def cut? (first last : Nat) (cs : List Char) : Option (List Char) := do
  let (_, behind) ← cutAt? first cs
  let (part, _) ← cutAt? (last - first) behind
  return part

/-- The number of bytes of a text. -/
def byteSize (cs : List Char) : Nat := cs.foldr (fun c size => c.utf8Size + size) 0

end DivisionBenchmark.Text

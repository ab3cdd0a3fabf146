import DivisionBenchmark.Text.LetterCase

/-!
# Lower case

A text in lower case by the full mapping of Unicode. Every letter has its partner wherever it
stands, except the capital sigma: at the end of a word it becomes the final sigma. The capital I
with a dot is the one letter that becomes two characters.

Main definitions:

* `DivisionBenchmark.Text.lowerChar`: the lower case of a character on its own;
* `DivisionBenchmark.Text.lower`: the lower case of a text.
-/

namespace DivisionBenchmark.Text

/-- The capital letter whose lower case depends on its place. -/
def capitalSigma : Char := Char.ofNat 0x3A3

/-- The lower case of a character on its own. -/
def lowerChar (c : Char) : List Char :=
  if c.toNat < 128 then [c.toLower]
  else if c.toNat = 0x130 then ['i', Char.ofNat 0x307]
  else
    match caseRuns.find? (·.contains c.toNat) with
    | some run => [Char.ofNat (c.toNat + run.shift).toNat]
    | none => [c]

/-- Whether the first character that is not passed over has case. -/
def casedAhead (cs : List Char) : Bool :=
  match cs.find? fun c => !caseIgnorableRanges.contains c with
  | some c => casedRanges.contains c
  | none => false

/-- The lower case of a capital sigma between what stands before it, latest first, and after it. -/
def lowerSigma (before after : List Char) : Char :=
  if casedAhead before && !casedAhead after then Char.ofNat 0x3C2 else Char.ofNat 0x3C3

/-- The lower case of a text that follows other characters, latest first. -/
def lowerAfter (before : List Char) : List Char → List Char
  | [] => []
  | c :: cs =>
    let this := if c = capitalSigma then [lowerSigma before cs] else lowerChar c
    this ++ lowerAfter (c :: before) cs

/-- **The lower case of a text.** -/
def lower (cs : List Char) : List Char := lowerAfter [] cs

end DivisionBenchmark.Text

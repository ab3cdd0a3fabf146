import DivisionBenchmark.Pattern.Primitive

/-!
# Sets of characters

A set of characters stands in brackets: characters, ranges, classes by name and other sets, with
operators between them. A caret at its beginning negates it. Hyphens at its beginning stand for
themselves, and so does a closing bracket.

Main definition: `DivisionBenchmark.Pattern.characterSet`.
-/

namespace DivisionBenchmark.Pattern

/-- The names of classes. -/
def classNames : List String :=
  ["alnum", "alpha", "ascii", "blank", "cntrl", "digit", "graph", "lower", "print", "punct",
    "space", "upper", "word", "xdigit"]

/-- A class by its name, and whether it is negated. -/
def namedClass : Reader Bool := do
  Reader.word ['[', ':']
  let negated := (← optional (Reader.char '^')).isSome
  let name ← Reader.takeWhile (· != ':')
  Reader.word [':', ']']
  if classNames.contains (String.ofList name) then return negated else failure

/-- An operator between two sets: what both have, what only the first has, what only one has. -/
def operator : Reader Unit :=
  Reader.word ['&', '&'] <|> Reader.word ['-', '-'] <|> Reader.word ['~', '~']

/-- The character behind the next one, blanks and the mark of a comment aside. -/
def follower : Reading (Option Char) := fun flags cs =>
  let rest := cs.drop 1
  let visible :=
    if flags.spaced then
      match rest.dropWhile Text.isBlank with
      | '#' :: rest => rest.dropWhile Text.isBlank
      | rest => rest
    else rest
  some ((visible.head?, flags), cs)

/-- A single item of a set. -/
def member (p : Primitive) : Reading Part := do
  if p.standsInSet (← get) then return {} else failure

/-- An item of a set: a character, a class by its letter, or a range. -/
def item : Reading Part := do
  let first ← primitive
  space
  let hyphen := (← Reader.peek?) == some '-'
  let behind ← follower
  -- a hyphen before the end of the set stands for itself, and two of them are an operator
  if hyphen ∧ behind ≠ some ']' ∧ behind ≠ some '-' then
    Reader.char '-'
    space
    let last ← primitive
    match first, last with
    | .character a _, .character b _ =>
      if a ≤ b then do
        discard (member last)
        member first
      else failure
    | _, _ => failure
  else member first

/-- The items of a set, latest first, with the operand before them if there is one. -/
def operand (left : Option Part) (items : List Part) : Part :=
  match left with
  | none => Part.several items
  | some left => Part.several [left, Part.several items]

/-- Whether a set is negated. Negated bytes would not be those of ASCII. -/
def negation : Reading Unit := do
  space
  if ← taken (Reader.char '^') then guard (← get).unicode

/-- The rest of a set up to its closing bracket, behind what was read of it: the operand before the
last operator, and the items since, latest first. At the beginning `leading` holds, as long as there
are only hyphens. -/
def setRest : Nat → Bool → Option Part → List Part → Reading Part
  | 0, _, _, _ => failure
  | fuel + 1, leading, left, items => do
    space
    if ← takenIf leading (Reader.char '-') then
      setRest fuel true left ((← member (.character '-' false)) :: items)
    else if ← takenIf (leading && items.isEmpty) (Reader.char ']') then
      setRest fuel false left [← member (.character ']' false)]
    else if ← taken (Reader.char ']') then return operand left items
    else if ← taken operator then setRest fuel false (some (operand left items)) []
    else
      match ← (optional namedClass : Reader (Option Bool)) with
      | some negated =>
        let flags ← get
        guard (if flags.unicode then ! flags.ignoresCase else ! negated)
        setRest fuel false left ({} :: items)
      | none =>
        if ← taken (Reader.char '[') then do
          negation
          let inner ← setRest fuel true none []
          setRest fuel false left (inner.deeper :: items)
        else setRest fuel false left ((← item) :: items)

/-- **A set of characters**, behind its opening bracket. -/
def characterSet (fuel : Nat) : Reading Part := do
  negation
  return (← setRest fuel true none []).deeper

end DivisionBenchmark.Pattern

import DivisionBenchmark.Pattern.CharacterSet
import DivisionBenchmark.Text.Alphanumeric

/-!
# The syntax of patterns

A pattern is made of branches between bars, a branch of parts behind one another, and a part may be
repeated. A group in parentheses is a pattern again; it may have a name, and it may change flags for
itself. Parentheses that hold nothing but flags change them up to the end of the group they stand
in. There is no count of repetitions in braces.

Main definitions:

* `DivisionBenchmark.Pattern.group`: the reader of what stands in a group;
* `DivisionBenchmark.Pattern.isPattern`: whether a text is a pattern.
-/

namespace DivisionBenchmark.Pattern

/-- **What an opening parenthesis begins.** -/
inductive Opening where
  /-- A change of flags, which is complete. -/
  | change (flags : Flags)
  /-- A group under flags, with a name if it has one. -/
  | group (flags : Flags) (name : Option (List Char))

/-- Whether a text is a name for groups. -/
def isGroupName : List Char → Bool
  | [] => false
  | first :: rest =>
    (first == '_' || Text.isLetter first) &&
      rest.all fun c =>
        c == '_' || c == '.' || c == '[' || c == ']' || Text.isAlphanumeric c

/-- The name of a group, up to the bracket that ends it. -/
def groupName : Reader (List Char) := do
  Reader.word ['?', 'P', '<'] <|> Reader.word ['?', '<']
  let name ← Reader.takeWhile (· != '>')
  Reader.char '>'
  if isGroupName name then return name else failure

/-- What an opening parenthesis begins. -/
def opening : Reading Opening := do
  space
  let flags ← get
  match ← (optional groupName : Reader (Option (List Char))) with
  | some name => return .group flags (some name)
  | none =>
    if ← taken (Reader.char '?') then
      let letters ← Reader.takeWhile fun c => c != ':' && c != ')'
      if areFlags letters then
        if ← taken (Reader.char ':') then return .group (flags.change letters) none
        else do
          Reader.char ')'
          -- without letters there is neither a group nor a change
          if letters.isEmpty then failure else return .change (flags.change letters)
      else failure
    else return .group flags none

/-- A part of a branch that is none of those with a beginning of their own. -/
def simplePart : Reading Part := do
  match ← (Reader.peek? : Reader (Option Char)) with
  | some '.' =>
    discard next
    if (← get).unicode then return {} else failure
  | some '^' | some '$' =>
    discard next
    return {}
  | _ => do
    let p ← primitive
    if p.stands (← get) then return {} else failure

/-- The rest of a group up to its closing parenthesis or the end of the text, behind what was read
of it: the branches before the last bar and the parts since, latest first. -/
def group : Nat → List Part → List Part → Reading Part
  | 0, _, _ => failure
  | fuel + 1, branches, parts => do
    space
    let branch := Part.several parts
    match ← (Reader.peek? : Reader (Option Char)) with
    | none | some ')' => return Part.several (branch :: branches)
    | some '|' =>
      discard next
      group fuel (branch :: branches) []
    | some '(' =>
      discard next
      match ← opening with
      | .change flags =>
        set flags
        group fuel branches ({ repeatable := false } :: parts)
      | .group flags name =>
        let outer ← get
        set flags
        let inner ← group fuel [] []
        Reader.char ')'
        -- flags that were changed in a group are forgotten behind it
        set outer
        let inner := inner.deeper
        group fuel branches ({ inner with names := name.toList ++ inner.names } :: parts)
    | some '*' | some '+' | some '?' =>
      discard next
      match parts with
      | part :: before =>
        if part.repeatable then do
          discard (taken (Reader.char '?'))
          group fuel branches (part.deeper :: before)
        else failure
      | [] => failure
    | some '\x7b' => failure
    | some '[' =>
      discard next
      let part ← characterSet fuel
      group fuel branches (part :: parts)
    | some _ => do
      let part ← simplePart
      group fuel branches (part :: parts)

/-- The parts of a pattern may be nested this deeply. -/
def depthLimit : Nat := 250

/-- **Whether a text is a pattern**: it is read to its end, its parts are not nested too deeply, and
no two groups have one name. -/
def isPattern (text : List Char) : Bool :=
  match group (text.length + 1) [] [] {} text with
  | some ((part, _), []) => part.depth ≤ depthLimit && distinct part.names
  | _ => false

end DivisionBenchmark.Pattern

import DivisionBenchmark.Text.Numeral
import DivisionBenchmark.Text.Reader

/-!
# The smallest parts of TOML documents

Blanks, line ends, comments, keys and strings.

Main definitions:

* `DivisionBenchmark.Toml.blanks`, `DivisionBenchmark.Toml.newline`,
  `DivisionBenchmark.Toml.comment`, `DivisionBenchmark.Toml.lineRest`: what stands between the
  parts that mean something;
* `DivisionBenchmark.Toml.string`: a string in any of its four forms;
* `DivisionBenchmark.Toml.key`: a key, which is made of one or more names.

Control characters other than the tab stand nowhere, and line ends only where a string may span
lines.
-/

namespace DivisionBenchmark.Toml

/-! ### Between the parts -/

/-- Whether a character is a blank within a line. -/
def isInlineBlank (c : Char) : Bool := c == ' ' || c == '\t'

/-- Whether a character may stand in a comment or in a literal string: a tab, or one that is no
control character. -/
def isVisible (c : Char) : Bool := c == '\t' || (0x20 ≤ c.toNat && c.toNat != 0x7F)

/-- Blanks within a line. -/
def blanks : Reader Unit := discard (Reader.takeWhile isInlineBlank)

/-- The end of a line that is not the last. -/
def newline : Reader Unit := Reader.char '\n' <|> Reader.word ['\r', '\n']

/-- A comment, up to the end of its line. -/
def comment : Reader Unit := do
  Reader.char '#'
  discard (Reader.takeWhile isVisible)

/-- What may stand behind the last part of a line. -/
def lineRest : Reader Unit := do
  blanks
  discard (optional comment)
  newline <|> Reader.atEnd

/-- What may stand between the parts of a list that spans lines. -/
def gap : Reader Unit :=
  discard (Reader.many (discard (Reader.takeWhile₁ isInlineBlank) <|> newline <|> comment))

/-! ### Strings -/

/-- The mark of a string whose characters may be escaped. -/
def quote : Char := '"'

/-- The mark of a string without escapes. -/
def tick : Char := Char.ofNat 0x27

/-- So many hexadecimal digits behind those that stand for `high`. -/
def hexDigits : Nat → Nat → Reader Nat
  | 0, high => return high
  | n + 1, high => do
    let c ← Reader.satisfy Text.isHexDigit
    hexDigits n (16 * high + Text.hexValue c)

/-- The character of a code point given by so many hexadecimal digits. -/
def codePoint (digits : Nat) : Reader Char := do
  let n ← hexDigits digits 0
  if n.isValidChar then return Char.ofNat n else failure

/-- The character an escape stands for. -/
def escape : Reader Char := do
  Reader.char '\\'
  let c ← Reader.satisfy fun _ => true
  match c with
  | 'b' => return Char.ofNat 0x08
  | 't' => return '\t'
  | 'n' => return '\n'
  | 'f' => return Char.ofNat 0x0C
  | 'r' => return '\r'
  | '"' => return '"'
  | '\\' => return '\\'
  | 'u' => codePoint 4
  | 'U' => codePoint 8
  | _ => failure

/-- A character that stands for itself between the given marks. -/
def plain (mark : Char) : Reader Char :=
  Reader.satisfy fun c => isVisible c && c != mark && (mark != quote || c != '\\')

/-- A string on one line whose characters may be escaped. -/
def basicString : Reader (List Char) := do
  Reader.char quote
  let cs ← Reader.many (plain quote <|> escape)
  Reader.char quote
  return cs

/-- A string on one line without escapes. -/
def literalString : Reader (List Char) := do
  Reader.char tick
  let cs ← Reader.many (plain tick)
  Reader.char tick
  return cs

/-- A backslash at the end of a line, with the blanks and line ends behind it. -/
def joinedLines : Reader Unit := do
  Reader.char '\\'
  blanks
  newline
  discard (Reader.many (discard (Reader.takeWhile₁ isInlineBlank) <|> newline))

/-- One or two marks within a string that three of them close. -/
def loneMarks (mark : Char) : Reader (List Char) := do
  let marks ← Reader.takeWhile₁ (· == mark)
  -- three of them close the string, so they are left to what comes next
  if marks.length ≤ 2 then return marks else failure

/-- The marks that close a string over several lines: three of them, and up to two before them that
belong to the string. -/
def closingMarks (mark : Char) : Reader (List Char) := do
  let marks ← Reader.takeWhile (· == mark)
  if 3 ≤ marks.length ∧ marks.length ≤ 5 then return marks.drop 3 else failure

/-- A string over several lines. A line end right behind the opening marks does not count. -/
def multilineString (mark : Char) (escapes : Reader (List Char)) : Reader (List Char) := do
  Reader.word [mark, mark, mark]
  discard (optional newline)
  let parts ← Reader.many <|
    (do return [← plain mark]) <|> (do newline; return ['\n']) <|> escapes <|> loneMarks mark
  let rest ← closingMarks mark
  return parts.flatten ++ rest

/-- **A string**, in any of its four forms. -/
def string : Reader String := do
  let cs ← multilineString quote ((do joinedLines; return []) <|> (do return [← escape])) <|>
    basicString <|> multilineString tick failure <|> literalString
  return String.ofList cs

/-! ### Keys -/

/-- Whether a character may stand in a name without marks. -/
def isBare (c : Char) : Bool := c.isAlphanum || c == '-' || c == '_'

/-- A name: a run of letters, digits, hyphens and underscores, or a string on one line. -/
def simpleKey : Reader String := do
  let cs ← basicString <|> literalString <|> Reader.takeWhile₁ isBare
  return String.ofList cs

/-- A key has fewer names than this. -/
def depthLimit : Nat := 80

/-- **A key**: names between dots, with blanks around each. -/
def key : Reader (List String) := do
  let names ← Reader.separated
    (do blanks; let name ← simpleKey; blanks; return name) (Reader.char '.')
  if names.length < depthLimit then return names else failure

end DivisionBenchmark.Toml

import DivisionBenchmark.Text.Unprinted

/-!
# Quoted texts

A text between quotation marks as it is shown in a message, so that it can be told from the message
and nothing in it is invisible. Quotation marks and backslashes get a backslash in front, the common
control characters their letters, and whatever else leaves no mark on the page its code point in
hexadecimal between braces.

Main definition: `DivisionBenchmark.Text.quoted`.
-/

namespace DivisionBenchmark.Text

/-- A character by its code point. -/
def codePoint (c : Char) : List Char :=
  ['\\', 'u', '\x7b'] ++ Nat.toDigits 16 c.toNat ++ ['\x7d']

/-- A character as it stands in a quoted text. -/
def quotedChar (c : Char) : List Char :=
  match c.toNat with
  | 0x00 => ['\\', '0']
  | 0x09 => ['\\', 't']
  | 0x0A => ['\\', 'n']
  | 0x0D => ['\\', 'r']
  | 0x22 => ['\\', '"']
  | 0x5C => ['\\', '\\']
  | _ => if isUnprinted c then codePoint c else [c]

/-- **A text between quotation marks.** -/
def quoted (text : String) : String :=
  String.ofList ('"' :: (text.toList.flatMap quotedChar ++ ['"']))

end DivisionBenchmark.Text

/-!
# Control sequences

A text for a terminal holds more than what is read on it: control characters, and sequences that
begin with an escape character and tell the terminal what to do. Where a text does not go to a
terminal, only what is read is left of it: the printed characters and the blanks that move the line
along. A sequence that was begun and not ended takes with it whatever follows, up to the next escape
character.

Main definitions:

* `DivisionBenchmark.Text.Sequence`: the part of a sequence that is being read;
* `DivisionBenchmark.Text.Sequence.step`: what a character makes of it;
* `DivisionBenchmark.Text.emphasised`: a text that stands out on a terminal;
* `DivisionBenchmark.Text.withoutControls`: what is read of a text.
-/

namespace DivisionBenchmark.Text

/-- **What part of a control sequence is being read.** -/
inductive Sequence where
  /-- No sequence. -/
  | none
  /-- The escape character alone. -/
  | escape
  /-- An escape with intermediate characters. -/
  | escapeIntermediate
  /-- A control sequence, which a letter or a like character ends. -/
  | control
  /-- A device control string, of which nothing was read. -/
  | device
  /-- The parameters of a device control string. -/
  | deviceParameters
  /-- The intermediate characters of a device control string. -/
  | deviceIntermediate
  /-- The body of a device control string, or another string that nothing printed ends. -/
  | string
  /-- A command to the operating system, which a bell ends. -/
  | command
  deriving DecidableEq, Repr

/-- The character that begins a sequence. -/
def escapeCharacter : Char := Char.ofNat 0x1B

/-- The last byte of the character that ends a string, which some other characters have too. -/
def terminatorByte : UInt8 := 0x9C

/-- Whether a control character is a blank and stays in the text. -/
def isBlankControl (c : Char) : Bool :=
  c = '\t' || c = '\n' || c = '\r' || c.toNat = 0x0C

/-- Whether a character is read where no sequence is. -/
def isRead (c : Char) : Bool :=
  isBlankControl c || (0x20 ≤ c.toNat && c.toNat != 0x7F)

/-- The part of a sequence after one more character, which is ASCII and begins or breaks off no
sequence. -/
def Sequence.next (s : Sequence) (c : Char) : Sequence :=
  let n := c.toNat
  if n < 0x20 || n = 0x7F then
    -- a bell ends a command, and no other control character ends anything
    if s = .command && n = 0x07 then .none else s
  else
    match s with
    | .none => .none
    | .escape =>
      if n < 0x30 then .escapeIntermediate
      else
        match c with
        | '[' => .control
        | ']' => .command
        | 'P' => .device
        | 'X' | '^' | '_' => .string
        | _ => .none
    | .escapeIntermediate => if n < 0x30 then .escapeIntermediate else .none
    | .control => if n < 0x40 then .control else .none
    | .device =>
      if n < 0x30 then .deviceIntermediate else if n < 0x40 then .deviceParameters else .string
    | .deviceParameters =>
      if n < 0x30 then .deviceIntermediate else if n < 0x3C then .deviceParameters else .string
    | .deviceIntermediate => if n < 0x30 then .deviceIntermediate else .string
    | .string => .string
    | .command => .command

/-- Whether a control character that is a blank is read inside a sequence. In a string it belongs to
the string. -/
def Sequence.showsBlanks : Sequence → Bool
  | .none | .escape | .escapeIntermediate | .control => true
  | .device | .deviceParameters | .deviceIntermediate | .string | .command => false

/-- **What a character makes of a sequence**, and whether the character is read. -/
def Sequence.step (s : Sequence) (c : Char) : Sequence × Bool :=
  if c = escapeCharacter then (.escape, false)
  else if c.toNat = 0x18 || c.toNat = 0x1A then (.none, false)
  else if c.toNat < 0x80 then
    (s.next c, if isBlankControl c then s.showsBlanks else s = .none && isRead c)
  else
    match s with
    | .none => (.none, true)
    | .string =>
      (if (String.utf8EncodeChar c).contains terminatorByte then .none else .string, false)
    | s => (s, false)

/-- What is read of a text that follows a part of a sequence. Where characters are being shown, all
that are read elsewhere are read, even between the parts of a sequence; the first that is not takes
the sequence up again. -/
def readAfter : Sequence → Bool → List Char → List Char
  | _, _, [] => []
  | s, shown, c :: cs =>
    if shown && isRead c then
      c :: readAfter (if c.toNat < 0x80 then s else .none) true cs
    else
      match s.step c with
      | (s, true) => c :: readAfter (if c.toNat < 0x80 then s else .none) true cs
      | (s, false) => readAfter s false cs

/-- **What is read of a text.** -/
def withoutControls (text : String) : String := String.ofList (readAfter .none false text.toList)

/-- A text that stands out on a terminal. -/
def emphasised (text : String) : String := "\x1b[1m" ++ text ++ "\x1b[0m"

end DivisionBenchmark.Text

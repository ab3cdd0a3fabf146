import DivisionBenchmark.CommandLine.Options

/-!
# Reading command lines

A command line is a sequence of arguments. `--name` and `-x` give a parameter; a setting takes its
value from behind an equals sign, from the rest of a cluster of letters, or from the argument after
it, unless that gives a parameter itself. Behind `--` nothing gives a parameter any more.

A value that stands in an argument of its own waits until the next parameter is given or the line
ends, and only then counts. An argument that is no parameter is reported at once, whatever waits.

Main definitions:

* `DivisionBenchmark.CommandLine.Argument`: the forms of an argument;
* `DivisionBenchmark.CommandLine.Scan`: what is known in the middle of a command line;
* `DivisionBenchmark.CommandLine.parse`: the options of a command line.
-/

namespace DivisionBenchmark.CommandLine

/-- **Why a command line sets nothing.** -/
inductive Stop where
  /-- Help is asked for. -/
  | help
  /-- The version is asked for. -/
  | version
  /-- Something is wrong with the command line. -/
  | misused (error : UsageError)
  deriving DecidableEq, Repr

/-! ### Arguments -/

/-- **The forms of an argument.** -/
inductive Argument where
  /-- Two hyphens and nothing else. -/
  | separator
  /-- A long name, with what stands behind its equals sign. -/
  | long (name : String) (value : Option String)
  /-- Letters behind a hyphen. -/
  | letters (letters : List Char)
  /-- Any other text. -/
  | other
  deriving DecidableEq, Repr

/-- The form of an argument. -/
def Argument.ofText (text : String) : Argument :=
  match text.toList with
  | ['-', '-'] => .separator
  | '-' :: '-' :: rest =>
    match Text.splitOnce? '=' rest with
    | some (name, value) => .long (String.ofList name) (some (String.ofList value))
    | none => .long (String.ofList rest) none
  | '-' :: c :: rest => .letters (c :: rest)
  | _ => .other

/-! ### Scanning -/

/-- **What is known in the middle of a command line.** -/
structure Scan where
  /-- What is set so far. -/
  options : Options
  /-- A setting that was given last, with its value if it stood in an argument of its own. -/
  pending : Option (Setting × Option String)
  /-- Whether nothing gives a parameter any more. -/
  trailing : Bool

/-- What is known before the first argument. -/
def Scan.start : Scan := ⟨{}, none, false⟩

namespace Scan

/-- A usage error, as a reason to stop. -/
def orStop {α : Type} (x : Except UsageError α) : Except Stop α := x.mapError .misused

/-- The setting that waits is given its value. -/
def settle (s : Scan) : Except Stop Scan :=
  match s.pending with
  | none => .ok s
  | some (setting, none) => .error (.misused (.noValue setting))
  | some (setting, some value) => do
    return { s with options := ← orStop (s.options.set setting value), pending := none }

/-- A setting is given, with a value if one is attached to it. -/
def give (s : Scan) (setting : Setting) (attached : Option String) : Except Stop Scan := do
  let s ← s.settle
  match attached with
  | some value => return { s with options := ← orStop (s.options.set setting value) }
  -- the value, if there is one, is the next argument
  | none => return { s with pending := some (setting, none) }

/-- A parameter is given that takes no value. -/
def giveBare (s : Scan) : Parameter → Except Stop Scan
  | .setting setting => s.give setting none
  | .switch switch => do
    let s ← s.settle
    return { s with options := ← orStop (s.options.turnOn switch) }
  | .help => do
    discard s.settle
    .error .help
  | .version => do
    discard s.settle
    .error .version

/-- An argument that gives a parameter by its long name. -/
def long (s : Scan) (name : String) (value : Option String) : Except Stop Scan :=
  match Parameter.ofLong? name, value with
  -- whatever waits is left alone: the unknown name is reported in its place
  | none, _ => .error (.misused (.unknownArgument ("--" ++ name)))
  | some (.setting setting), value => s.give setting value
  | some parameter, some value => .error (.misused (.unneededValue parameter value))
  | some parameter, none => s.giveBare parameter

/-- An argument that gives parameters by their letters. The first that takes a value takes the rest
of the letters for it, less an equals sign. -/
def letters (s : Scan) : List Char → Except Stop Scan
  | [] => .ok s
  | c :: rest =>
    match Parameter.ofLetter? c with
    | none => .error (.misused (.unknownArgument (String.ofList ['-', c])))
    | some (.setting setting) =>
      match rest with
      | [] => s.give setting none
      | '=' :: value => s.give setting (some (String.ofList value))
      | value => s.give setting (some (String.ofList value))
    | some parameter => do
      let s ← s.giveBare parameter
      s.letters rest

/-- An argument that gives no parameter: the value of the setting that waits for one. -/
def stray (s : Scan) (text : String) : Except Stop Scan :=
  match s.pending, s.trailing with
  -- only a setting that still waits takes the text
  | some (setting, none), false => .ok { s with pending := some (setting, some text) }
  | _, _ => .error (.misused (.unknownArgument text))

/-- What is known after one more argument. -/
def step (s : Scan) (text : String) : Except Stop Scan :=
  if s.trailing then s.stray text
  else
    match Argument.ofText text with
    | .separator => .ok { s with trailing := true }
    | .long name value => s.long name value
    | .letters letters => s.letters letters
    | .other => s.stray text

end Scan

/-- **The options of a command line.** What is logged may also be set by the environment. -/
def parse (environment : Option String) (arguments : List String) : Except Stop Options := do
  let s ← arguments.foldlM Scan.step Scan.start
  let s ← s.settle
  return { s.options with logLevel := s.options.logLevel <|> environment }

end DivisionBenchmark.CommandLine

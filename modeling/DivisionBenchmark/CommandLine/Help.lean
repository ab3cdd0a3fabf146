import DivisionBenchmark.CommandLine.Parameter
import DivisionBenchmark.Identity
import DivisionBenchmark.Text.ControlSequence

/-!
# Help

What the program tells of itself: how it is called, its parameters, and its version. Names stand out
where help goes to a terminal. Here it goes elsewhere, and control sequences are taken out of it, be
they the help's own or those of a value from the environment.

Main definitions: `DivisionBenchmark.CommandLine.helpText` and
`DivisionBenchmark.CommandLine.versionText`.
-/

namespace DivisionBenchmark.CommandLine

/-- What the program is for. -/
def purpose : String := "Microbenchmark harness for unsigned 64-bit division and remainder"

/-- The environment variable that sets what is logged. -/
def logVariable : String := "UDIVBENCH_LOG"

/-- What is logged where nothing is said about it. -/
def defaultLogLevel : String := "info"

/-- What stands before each line that describes a parameter. -/
def indentation : String := "          "

/-- A text whose lines after the first stand below the first. -/
def indented (text : String) : String :=
  String.join (text.toList.map fun c => if c = '\n' then "\n" ++ indentation else c.toString)

/-- What help tells of a parameter behind its description: where else it is set, and to what. -/
def remark (environment : Option String) : Parameter → String
  | .setting .logLevel =>
    " [env: " ++ logVariable ++ "=" ++ environment.getD "" ++ "] [default: " ++
      defaultLogLevel ++ "]"
  | _ => ""

/-- What help tells of a parameter. -/
def helpEntry (environment : Option String) (parameter : Parameter) : String :=
  let letter := match parameter.letter? with
    | some c => Text.emphasised ("-" ++ c.toString) ++ ", "
    | none => "    "
  "  " ++ letter ++ Text.emphasised ("--" ++ parameter.long) ++ parameter.placeholder ++ "\n" ++
    indentation ++ indented (parameter.description ++ remark environment parameter) ++ "\n"

/-- **The help of the program**, as it goes to a terminal. -/
def terminalHelp (environment : Option String) : String :=
  purpose ++ "\n\n" ++ Text.emphasised "Usage:" ++ " " ++ Text.emphasised programName ++
    " [OPTIONS]\n\n" ++ Text.emphasised "Options:" ++ "\n" ++
    String.join (Parameter.all.map (helpEntry environment))

/-- **The help of the program**, as it goes elsewhere. -/
def helpText (environment : Option String) : String :=
  Text.withoutControls (terminalHelp environment)

/-- **The version of the program.** -/
def versionText : String := programName ++ " " ++ programVersion ++ "\n"

end DivisionBenchmark.CommandLine

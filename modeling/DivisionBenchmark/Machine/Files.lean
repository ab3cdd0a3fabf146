/-!
# Files

What a program can learn of the files around it: the text of one, whether a path leads to a
directory, and whether a file can be created. Everything it decides is decided on these answers.

Main definitions:

* `DivisionBenchmark.OsError`: why the system refuses a path, with its text;
* `DivisionBenchmark.Files`: the answers;
* `DivisionBenchmark.Host`: the files together with the number of processor cores.
-/

namespace DivisionBenchmark

/-- **Why the system refuses a path.** -/
inductive OsError where
  /-- Nothing is there. -/
  | notFound
  /-- A file stands where a directory is needed. -/
  | notDirectory
  /-- A directory stands where a file is needed. -/
  | isDirectory
  /-- A name, or the whole path, is too long. -/
  | nameTooLong
  /-- The path holds a character that ends a path. -/
  | nulByte
  /-- Any other refusal, by its number and text. -/
  | other (code : Nat) (text : String)
  deriving DecidableEq, Repr

/-- A refusal with the number the system gives it. -/
def OsError.numbered (code : Nat) (text : String) : String := s!"{text} (os error {code})"

/-- The text a refusal is reported with. -/
def OsError.message : OsError → String
  | .notFound => numbered 2 "No such file or directory"
  | .notDirectory => numbered 20 "Not a directory"
  | .isDirectory => numbered 21 "Is a directory"
  | .nameTooLong => numbered 36 "File name too long"
  | .nulByte => "file name contained an unexpected NUL byte"
  | .other code text => numbered code text

/-- **What can be learned of files**, by their paths. -/
structure Files where
  /-- The text of a file. -/
  read : String → Except OsError String
  /-- Whether a path leads to a directory. -/
  isDirectory : String → Bool
  /-- Whether a file can be created, or emptied where it is there already. -/
  create : String → Except OsError Unit

/-- **The machine a program runs on.** -/
structure Host where
  /-- The number of processor cores. -/
  cores : Nat
  /-- The files. -/
  files : Files

end DivisionBenchmark

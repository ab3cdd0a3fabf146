/-!
# Identity

The name and the version of the program, as its reports, its help and its first line give them.
-/

namespace DivisionBenchmark

/-- The name of the program. -/
def programName : String := "udivbench"

/-- The version of the program. -/
def programVersion : String := "0.1.0"

/-- The first line of a run. -/
def bannerLine : String := programName ++ " v" ++ programVersion ++ "\n"

end DivisionBenchmark

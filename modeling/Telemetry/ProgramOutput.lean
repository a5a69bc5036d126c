/-!
# What a program leaves behind
-/

namespace Telemetry

/-- The result of a run of a command line program. -/
structure ProgramOutput where
  /-- Zero if the run succeeded. -/
  exitCode : Nat
  standardOutput : String
  standardError : String
deriving Repr, DecidableEq

def lines (texts : List String) : String :=
  String.join (texts.map (· ++ "\n"))

end Telemetry

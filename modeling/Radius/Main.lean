import Radius.Settings

/-!
# The command line

The program reads its environment and says what the control service is launched with, or why the
environment cannot be used.
-/

namespace Radius.Launch

/-- The variables of a launch that are set. -/
def readEnvironment : IO Environment :=
  variableNames.filterMapM fun name => return (← IO.getEnv name).map (name, ·)

end Radius.Launch

/-- Say what is launched, or why nothing can be, with status zero or one. -/
def main : IO UInt32 := do
  match Radius.Launch.ofEnvironment (← Radius.Launch.readEnvironment) with
  | .ok launch =>
    IO.println launch.summary
    return 0
  | .error why =>
    IO.eprintln why.message
    return 1

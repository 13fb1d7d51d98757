import Telephony.Scenario.Demonstration

/-!
The command line. It hands the arguments and the input over, and writes what comes back.
-/

open Telephony.Scenario

def main (arguments : List String) : IO UInt32 := do
  let input ← if Demonstration.readsInput arguments then (← IO.getStdin).readToEnd else pure ""
  let finished := Demonstration.run arguments input
  (← IO.getStdout).putStr finished.output
  (← IO.getStderr).putStr finished.errors
  return if finished.failed then 1 else 0

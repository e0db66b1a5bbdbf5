import Courier.CommandLine.Program

/-! # The program

Runs the command line where no host can be reached.
-/

open Courier CommandLine

/-- The command line. -/
def main (arguments : List String) : IO UInt32 := do
  let conditions := fun _ => Bench.Conditions.steady (.ofCount 1) (.ofCount 1)
  let ending := program .isolated conditions (arguments.map Utf8.encode)
  (← IO.getStdout).putStr ending.output.render
  if let some fault := ending.fault then
    (← IO.getStderr).putStrLn ("error: " ++ fault.message)
  return ending.exit.toUInt32

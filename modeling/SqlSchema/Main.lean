import SqlSchema.CommandLine.Command

/-!
# The program

Runs the command that the arguments ask for.
-/

/-- Shows the outcome of a run and gives its status. -/
def main (arguments : List String) : IO UInt32 := do
  let outcome := SqlSchema.CommandLine.run arguments
  IO.print outcome.stdout
  IO.eprint outcome.stderr
  return UInt32.ofNat outcome.status

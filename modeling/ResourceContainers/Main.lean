import ResourceContainers.CommandLine

/-!
# The program

Hands the arguments and the environment to `CommandLine.run`, and what that says to the terminal.
-/

open ResourceContainers

/-- The variables that the program looks at. -/
def readEnvironment : IO Environment := do
  let mut env : Environment := Table.empty
  for name in ["RESCON_LOG", "RESCON_ASYNC_IO", "RUST_LOG"] do
    if let some value ← IO.getEnv name then
      env := env.insert name value.toUTF8
  return env

/-- Runs the program. -/
def main (arguments : List String) : IO UInt32 := do
  let outcome := CommandLine.run arguments (← readEnvironment)
  IO.print outcome.output
  IO.eprint outcome.errors
  return outcome.code

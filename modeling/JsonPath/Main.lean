import JsonPath.Command.Response

/-!
# The program

Reads the arguments and, if they ask for it, the standard input; prints the
response.
-/

open JsonPath

/-- The standard input, unless it is a terminal. -/
def readInput : IO (Option String) := do
  let stdin ← IO.getStdin
  if ← stdin.isTty then
    return none
  else
    return some (← stdin.readToEnd)

/-- The response to the arguments.  The input is read only if they ask for it. -/
def respond (args : List String) : IO Response := do
  match Request.read args with
  | .error interruption => return .ofInterruption interruption
  | .ok request =>
      let input ← if request.needsInput then readInput else pure none
      return .ofRequest input request

/-- Prints the response and exits with its code. -/
def main (args : List String) : IO UInt32 := do
  let response ← respond args
  IO.print response.output
  IO.eprint response.diagnostics
  return response.exitCode.toUInt32

import JsonPath.Command.Arguments
import JsonPath.Json.Writer

/-!
# What the program answers

Values go to the output, one to a line, and errors of items to the diagnostics.
The exit code is zero if nothing failed, one if something did, two if the
arguments are no command, and 101 after a fatal error.
-/

namespace JsonPath

/-- What a run of the program leaves: its exit code and what it prints on both outputs. -/
structure Response where
  exitCode : UInt8
  output : String
  diagnostics : String
  deriving DecidableEq, Repr

namespace Response

/-- The JSON text of a value. -/
def render (pretty : Bool) (v : Value) : String :=
  String.ofList (if pretty then Json.pretty 0 v else Json.compact v)

/-- Adds a line to the end of a text. -/
def addLine (text line : String) : String := text ++ line ++ "\n"

/-- One more result. -/
def addResult (pretty : Bool) (r : Response) : Result → Response
  | .ok v => { r with output := addLine r.output (render pretty v) }
  | .error e =>
      { r with exitCode := 1, diagnostics := addLine r.diagnostics s!"error: {e.message}" }

/-- Nothing is printed and nothing is wrong. -/
def succeeded : Response := { exitCode := 0, output := "", diagnostics := "" }

/-- A failure before anything is answered. -/
def failed (exitCode : UInt8) (message : String) : Response :=
  { exitCode, output := "", diagnostics := addLine "" message }

/-- How the program is used. -/
def usage : String :=
  "\n".intercalate
    [ "Usage: jsonpath <COMMAND> <PATH> [OPTIONS]",
      "",
      "Commands:",
      "  value   Print every value the path yields",
      "  exists  Print true or false per input item",
      "  query   Print the input items the path matches",
      "  check   Only validate syntax",
      "  help    Print this text" ]

/-- The response of a run that has begun.  A fatal error leaves nothing else of
it. -/
def ofResults (pretty : Bool) (results : Results) : Response :=
  match results.fatal? with
  | some e => failed 101 e.message
  | none => results.foldl (addResult pretty) succeeded

end Response

/-- The input of a request, if it brings it along. -/
def Request.needsInput : Request → Bool
  | .run options _ => options.input.isNone
  | .check _ => false

namespace Response

/-- The response to a request.  `input` is what stands in for input that the
request does not bring along. -/
def ofRequest (input : Option String) : Request → Response
  | .run options pretty =>
      match { options with input := options.input <|> input }.execute with
      | .ok results => ofResults pretty results
      | .error e => failed 1 e.message
  | .check path =>
      match checkStatement path with
      | .ok mode => { succeeded with output := addLine "" s!"Syntax is valid ({mode.name} mode)" }
      | .error e => failed 1 e.message

/-- The response to arguments that are no request. -/
def ofInterruption : Interruption → Response
  | .help => { succeeded with output := addLine "" usage }
  | .version => { succeeded with output := addLine "" "jsonpath" }
  | .refused => failed 2 usage

end Response

end JsonPath

import JsonPath.Command.Run

/-!
# Command-line arguments

A command is a word, followed by a statement and options in any order.  An
option with a value takes it from behind an equals sign or from the next
argument, which must not look like an option; options of one letter may be
written together.  Behind `--` nothing is an option.
-/

namespace JsonPath

/-- What the command line asks for. -/
inductive Request where
  | run (options : RunOptions) (pretty : Bool)
  | check (path : String)

/-- Why the arguments are read no further. -/
inductive Interruption where
  /-- They ask how the command is used. -/
  | help
  | version
  /-- They are no command. -/
  | refused

/-- The options of the program. -/
inductive CommandOption where
  | input
  | lines
  | binding
  | defaultOnEmpty
  | defaultOnError
  | pretty
  | help
  deriving DecidableEq, Repr

namespace CommandOption

/-- The options of the commands that run a statement. -/
def ofRun : List CommandOption :=
  [input, lines, binding, defaultOnEmpty, defaultOnError, pretty, help]

/-- The options of the command that checks a statement. -/
def ofCheck : List CommandOption := [help]

/-- The long name, which is written behind two hyphens. -/
def name : CommandOption → String
  | input => "input"
  | lines => "lines"
  | binding => "var"
  | defaultOnEmpty => "default-on-empty"
  | defaultOnError => "default-on-error"
  | pretty => "pretty"
  | help => "help"

/-- The letter that stands for an option. -/
def letter? : CommandOption → Option Char
  | input => some 'i'
  | pretty => some 'p'
  | help => some 'h'
  | _ => none

/-- Whether the option is followed by a value. -/
def takesValue : CommandOption → Bool
  | lines | pretty | help => false
  | _ => true

end CommandOption

/-- The arguments that have been read. -/
structure GivenArguments where
  path : Option String
  /-- Options with their values, last first; the value of one that takes none is
  empty. -/
  options : List (CommandOption × String)

namespace GivenArguments

/-- No arguments. -/
def empty : GivenArguments := { path := none, options := [] }

/-- Whether an option is given. -/
def has (given : GivenArguments) (option : CommandOption) : Bool :=
  given.options.any fun (o, _) => o == option

/-- The value of an option, if it is given. -/
def value? (given : GivenArguments) (option : CommandOption) : Option String :=
  given.options.lookup option

/-- The values of an option, in the order in which they were given. -/
def values (given : GivenArguments) (option : CommandOption) : List String :=
  (given.options.filterMap fun (o, v) => if o = option then some v else none).reverse

/-- One more option.  Only bindings may be given more than once. -/
def add (given : GivenArguments) (option : CommandOption) (v : String) :
    Except Interruption GivenArguments :=
  if option = .help then .error .help
  else if option ≠ .binding ∧ given.has option then .error .refused
  else .ok { given with options := (option, v) :: given.options }

/-- The path; there is only one. -/
def addPath (given : GivenArguments) (path : String) : Except Interruption GivenArguments :=
  match given.path with
  | none => .ok { given with path := some path }
  | some _ => .error .refused

/-- An option that is awaiting its value. -/
abbrev Awaiting := Option CommandOption

/-- Letters behind a single hyphen.  What stands behind an option with a value is
its value. -/
def readLetters (accepted : List CommandOption) (given : GivenArguments) :
    List Char → Except Interruption (GivenArguments × Awaiting)
  | [] => .ok (given, none)
  | c :: rest =>
      match accepted.find? fun option => option.letter? == some c with
      | none => .error .refused
      | some option =>
          if option.takesValue then
            match rest with
            | [] => .ok (given, some option)
            | '=' :: v => (given.add option (String.ofList v)).map (·, none)
            | v => (given.add option (String.ofList v)).map (·, none)
          else
            match given.add option "" with
            | .error e => .error e
            | .ok more => readLetters accepted more rest

/-- A name behind two hyphens, with or without a value. -/
def readName (accepted : List CommandOption) (given : GivenArguments) (text : List Char) :
    Except Interruption (GivenArguments × Awaiting) :=
  let name := String.ofList (text.takeWhile (· != '='))
  match accepted.find? (fun option => option.name == name), text.dropWhile (· != '=') with
  | none, _ => .error .refused
  | some option, [] =>
      if option.takesValue then .ok (given, some option)
      else (given.add option "").map (·, none)
  | some option, _ :: v =>
      if option.takesValue then (given.add option (String.ofList v)).map (·, none)
      else .error .refused

/-- Whether an argument has the form of an option. -/
def looksLikeOption (arg : String) : Bool := arg.toList.head? == some '-' && arg != "-"

/-- One argument that is not the value of an option. -/
def readArgument (accepted : List CommandOption) (given : GivenArguments) (arg : String) :
    Except Interruption (GivenArguments × Awaiting) :=
  match arg.toList with
  | '-' :: '-' :: name => readName accepted given name
  | '-' :: c :: letters => readLetters accepted given (c :: letters)
  | _ => (given.addPath arg).map (·, none)

/-- Reads all arguments of a command. -/
def readAll (accepted : List CommandOption) :
    GivenArguments → Awaiting → List String → Except Interruption GivenArguments
  | given, none, [] => .ok given
  | _, some _, [] => .error .refused
  | given, some option, arg :: rest =>
      if looksLikeOption arg then .error .refused
      else
        match given.add option arg with
        | .error e => .error e
        | .ok more => readAll accepted more none rest
  | given, none, arg :: rest =>
      if arg = "--" then
        rest.foldlM addPath given
      else
        match readArgument accepted given arg with
        | .error e => .error e
        | .ok (more, awaiting) => readAll accepted more awaiting rest

end GivenArguments

namespace Request

/-- A command that runs a statement. -/
def readRun (operation : Operation) (args : List String) : Except Interruption Request := do
  let given ← GivenArguments.readAll CommandOption.ofRun .empty none args
  match given.path with
  | none => .error .refused
  | some path =>
      let options : RunOptions :=
        { path, operation
          input := given.value? .input
          lines := given.has .lines
          bindings := given.values .binding
          defaultOnEmpty := given.value? .defaultOnEmpty
          defaultOnError := given.value? .defaultOnError }
      return .run options (given.has .pretty)

/-- The command that checks a statement. -/
def readCheck (args : List String) : Except Interruption Request := do
  let given ← GivenArguments.readAll CommandOption.ofCheck .empty none args
  match given.path with
  | none => .error .refused
  | some path => return .check path

/-- The names of the commands. -/
def commands : List String := ["value", "exists", "query", "check", "help"]

/-- The words behind `help`: at most the name of one command. -/
def readHelp : List String → Interruption
  | [] => .help
  | [command] => if commands.contains command then .help else .refused
  | _ => .refused

/-- Reads the arguments of the program. -/
def read : List String → Except Interruption Request
  | [] => .error .refused
  | "value" :: rest => readRun .value rest
  | "exists" :: rest => readRun .matching rest
  | "query" :: rest => readRun .query rest
  | "check" :: rest => readCheck rest
  | "help" :: rest => .error (readHelp rest)
  | arg :: _ =>
      match arg.toList with
      | '-' :: 'h' :: _ => .error .help
      | '-' :: 'V' :: _ => .error .version
      | _ =>
          if arg = "--help" then .error .help
          else if arg = "--version" then .error .version
          else .error .refused

end Request

end JsonPath

/-!
The arguments of the command. Arguments are read in order; the first one that does not fit makes the
whole line a misuse, and a request for the version or for help ends the reading.
-/
namespace ApiTypes

/-- What a run is to do. -/
structure Options where
  input : String
  output : String := "src"
  /-- The name of the module, in place of that of the API. -/
  moduleName : Option String := none
  dryRun : Bool := false
  verbosity : Nat := 0
deriving DecidableEq

/-- What a command line asks for. -/
inductive Request where
  | version
  | help
  | run (o : Options)
deriving DecidableEq

namespace CommandLine

/-- The options that take a value. -/
inductive ValueOption where
  | input
  | output
  | moduleName
deriving DecidableEq

/-- What has been read so far. -/
structure State where
  input : Option String := none
  output : Option String := none
  moduleName : Option String := none
  dryRun : Bool := false
  verbosity : Nat := 0
  /-- The option whose value must come next. -/
  pending : Option ValueOption := none

/-- Where reading goes on, or what it has found. -/
inductive Progress where
  | more (s : State)
  | found (r : Request)

namespace State

/-- Gives an option its value, once. A path must not be empty. -/
def give (s : State) (value : String) : ValueOption → Option State
  | .input =>
    if s.input.isSome || value.isEmpty then none
    else some { s with input := some value, pending := none }
  | .output =>
    if s.output.isSome || value.isEmpty then none
    else some { s with output := some value, pending := none }
  | .moduleName =>
    if s.moduleName.isSome then none
    else some { s with moduleName := some value, pending := none }

/-- Takes the option, with its value or before it. -/
def option (s : State) (o : ValueOption) (value : Option String) : Option Progress :=
  match value with
  | some v => (s.give v o).map .more
  | none => some (.more { s with pending := some o })

/-- Reads a long option, of the form `name` or `name=value`. -/
def long (s : State) (name : String) (value : Option String) : Option Progress :=
  match name, value with
  | "input", value => s.option .input value
  | "output", value => s.option .output value
  | "module", value => s.option .moduleName value
  | "dry-run", none => if s.dryRun then none else some (.more { s with dryRun := true })
  | "verbose", none => some (.more { s with verbosity := s.verbosity + 1 })
  | "version", none => some (.found .version)
  | "help", none => some (.found .help)
  | _, _ => none

/-- The value behind the letter of a short option. -/
def attached : List Char → Option String
  | [] => none
  | '=' :: rest => some (String.ofList rest)
  | rest => some (String.ofList rest)

/-- Reads short options in one argument. -/
def short (s : State) : List Char → Option Progress
  | [] => some (.more s)
  | 'i' :: rest => s.option .input (attached rest)
  | 'o' :: rest => s.option .output (attached rest)
  | 'm' :: rest => s.option .moduleName (attached rest)
  | 'v' :: rest => short { s with verbosity := s.verbosity + 1 } rest
  | 'V' :: _ => some (.found .version)
  | 'h' :: _ => some (.found .help)
  | _ => none

/-- The request of a line that has been read to its end. -/
def finish (s : State) : Option Request := do
  if s.pending.isSome then none
  return .run {
    input := ← s.input
    output := s.output.getD "src"
    moduleName := s.moduleName
    dryRun := s.dryRun
    verbosity := s.verbosity }

end State

/-- A long option's name, and the value behind an equals sign. -/
def splitValue (text : List Char) : String × Option String :=
  (String.ofList (text.takeWhile (· != '=')),
    match text.dropWhile (· != '=') with
    | [] => none
    | _ :: value => some (String.ofList value))

/-- Reads the arguments that are left. -/
def readFrom (s : State) : List String → Option Request
  | [] => s.finish
  | argument :: rest => do
    let progress ←
      match argument.toList with
      | '-' :: '-' :: [] => if rest.isEmpty then (s.finish).map .found else none
      | '-' :: '-' :: text =>
        if s.pending.isSome then none
        else s.long (splitValue text).1 (splitValue text).2
      | '-' :: c :: text => if s.pending.isSome then none else s.short (c :: text)
      | _ => (← s.pending.map fun o => s.give argument o).map .more
    match progress with
    | .more s => readFrom s rest
    | .found r => some r

/-- The request of a command line; `none` for a misuse. -/
def read (arguments : List String) : Option Request :=
  readFrom {} arguments

end CommandLine

end ApiTypes

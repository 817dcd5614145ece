import ApiTypes.Run

/-! The command: reads the input file and carries out the plan of the run. -/
namespace ApiTypes.Main

/-- The text of a file; `none` when there is no such file or it is no text. -/
def readText? (path : String) : IO (Option String) := do
  try
    return String.fromUTF8? (← IO.FS.readBinFile path)
  catch _ =>
    return none

/-- Carries out one step. -/
def perform : WriteStep → IO Unit
  | .makeDirectories path => IO.FS.createDirAll path
  | .truncate path => IO.FS.writeBinFile path ByteArray.empty
  | .fill path content => IO.FS.writeBinFile path content
  | .rename source target => IO.FS.rename source target

/-- Carries out steps until one fails, and gives the path of that one. -/
def performAll : List WriteStep → IO (Option String)
  | [] => return none
  | s :: rest => do
    let done ← try perform s; pure true catch _ => pure false
    if done then performAll rest else return some s.path

/-- Ends with a message on the error stream. -/
def stop (f : Failure) : IO UInt32 := do
  match f with
  | .error e => IO.eprintln ("Error: " ++ e.message)
  | .noIdentifier text => IO.eprintln ("Error: '" ++ text ++ "' is not a valid identifier")
  return UInt32.ofNat (Run.Ending.failure f).exitCode

end ApiTypes.Main

open ApiTypes in
def main (arguments : List String) : IO UInt32 := do
  match CommandLine.read arguments with
  | none =>
    IO.eprint Run.helpText
    return UInt32.ofNat Run.Ending.misuse.exitCode
  | some .version => IO.print Run.versionText; return 0
  | some .help => IO.print Run.helpText; return 0
  | some (.run o) =>
    match Run.plan o (← Main.readText? o.input) with
    | .error f => Main.stop f
    | .ok p =>
      match ← Main.performAll p.steps with
      | some blamed => Main.stop (.error (.unwritable blamed))
      | none =>
        IO.print p.stdout
        p.summary.forM fun line => IO.eprintln line
        return 0

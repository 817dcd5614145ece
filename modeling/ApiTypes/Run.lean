import ApiTypes.CommandLine
import ApiTypes.Document.Decode
import ApiTypes.Layout.Source
import ApiTypes.Storage.AtomicWrite

/-! Runs of the generator, from the text of a document to a file. -/
namespace ApiTypes

/-- The document in a file; `content` is the text of the file if it has one. -/
def Document.load (path : String) (content : Option String) : Outcome Document :=
  match content with
  | none => Outcome.fail (.unreadable path)
  | some text =>
    match Document.ofText? text with
    | none => Outcome.fail .notADocument
    | some d => .ok d.nameSchemas

namespace Run

/-- The context of a document, as an outcome. -/
def context (d : Document) : Outcome Context :=
  (Context.ofDocument d).mapError .error

/-- The given name of a module, or else the one that follows from its document. -/
def moduleName (given : Option String) (d : Document) : Outcome String :=
  match given with
  | some name => .ok name
  | none =>
    match Naming.moduleName? d.name d.version with
    | some name => .ok name
    | none => Outcome.fail (.badVersion d.version)

/-- The path of a module in a directory. -/
def modulePath (output name : String) : String :=
  Path.join output (name ++ ".rs")

/-- The text of the module of a document. -/
def moduleText (c : Context) (d : Document) : Outcome String := do
  return (← SourceModule.ofDocument c d).fileText d

/-- Writes the module of a document, or only generates it in a dry run; gives its text. -/
def generate (disk : Disk) (c : Context) (d : Document) (output name : String) (dryRun : Bool) :
    Disk × Outcome String :=
  match moduleText c d with
  | .error e => (disk, .error e)
  | .ok text =>
    if dryRun then (disk, .ok text)
    else
      let (disk, result) := AtomicWrite.run disk (modulePath output name) text.toUTF8
      (disk, result.map fun _ => text)

/-- Generates the module of the document in a file. -/
def generateFile (disk : Disk) (input output : String) (name : Option String) :
    Disk × Outcome String :=
  let prepared : Outcome (Document × Context × String) := do
    let d ← Document.load input (disk.readText? input)
    let c ← context d
    return (d, c, ← moduleName name d)
  match prepared with
  | .error e => (disk, .error e)
  | .ok (d, c, name) => generate disk c d output name false

/-- What a run prints and does, once its document has been read. -/
structure Plan where
  stdout : String := ""
  steps : List WriteStep := []
  /-- The line on the error stream that tells of success. -/
  summary : Option String := none

/-- The plan of a run for the text of its input file. -/
def plan (o : Options) (content : Option String) : Outcome Plan := do
  let d ← Document.load o.input content
  let name ← moduleName o.moduleName d
  let c ← context d
  let text ← moduleText c d
  if o.dryRun then return { stdout := "=== " ++ name ++ ".rs ===\n" ++ text ++ "\n\n" }
  else
    let path := modulePath o.output name
    return {
      steps := AtomicWrite.steps path text.toUTF8
      summary := some
        ("Generated " ++ name ++ " (" ++ toString d.schemas.length ++ " schemas) -> " ++ path) }

/-- How a run ends. -/
inductive Ending where
  | success (summary : Option String)
  | failure (f : Failure)
  /-- The command line asks for nothing that exists. -/
  | misuse

/-- The exit code of an ending. -/
def Ending.exitCode : Ending → Nat
  | success _ => 0
  | failure (.error _) => 1
  | misuse => 2
  | failure (.noIdentifier _) => 101

/-- What a run leaves behind. -/
structure Report where
  stdout : String
  ending : Ending
  disk : Disk

def versionText : String := "discogen-gen 0.1.0\n"

def helpText : String :=
  "\n".intercalate
    ["Transforms a discovery document into typed data types",
      "",
      "Usage: discogen-gen [OPTIONS] --input <INPUT>",
      "",
      "Options:",
      "  -i, --input <INPUT>    Discovery document (JSON) to generate code for",
      "  -o, --output <OUTPUT>  Output directory for generated code [default: src]",
      "  -m, --module <MODULE>  Module (file) name; defaults to the API name plus its version number",
      "      --dry-run          Print generated code without writing files",
      "  -v, --verbose...       Increase verbosity (-v, -vv, -vvv)",
      "  -h, --help             Print help",
      "  -V, --version          Print version",
      ""]

/-- Runs a command line. -/
def command (disk : Disk) (arguments : List String) : Report :=
  match CommandLine.read arguments with
  | none => ⟨"", .misuse, disk⟩
  | some .version => ⟨versionText, .success none, disk⟩
  | some .help => ⟨helpText, .success none, disk⟩
  | some (.run o) =>
    match plan o (disk.readText? o.input) with
    | .error f => ⟨"", .failure f, disk⟩
    | .ok p =>
      match WriteStep.runAll disk p.steps with
      | (disk, none) => ⟨p.stdout, .success p.summary, disk⟩
      | (disk, some blamed) => ⟨p.stdout, .failure (.error (.unwritable blamed)), disk⟩

end Run

end ApiTypes

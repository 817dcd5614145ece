import ApiTypes.Error
import ApiTypes.Storage.Disk

/-!
Writing a file so that its path holds the old content or the new and nothing between. The content
goes to a hidden file beside it, which is then moved over it. The steps are data, so that runs which
stop early or mix with others can be spoken of.
-/
namespace ApiTypes

/-- One step on a file system. -/
inductive WriteStep where
  | makeDirectories (path : String)
  /-- Begins a file anew, with nothing in it. -/
  | truncate (path : String)
  | fill (path : String) (content : ByteArray)
  | rename (source target : String)

namespace WriteStep

/-- The path to blame when the step fails. -/
def path : WriteStep → String
  | makeDirectories path | truncate path | fill path _ | rename _ path => path

/-- The file system after the step, and whether the step succeeded. -/
def run (d : Disk) : WriteStep → Disk × Bool
  | makeDirectories path => d.makeDirectories (Path.ancestors path)
  | truncate path => outcome (d.write? path ByteArray.empty)
  | fill path content => outcome (d.write? path content)
  | rename source target => outcome (d.rename? source target)
where
  outcome (after : Option Disk) : Disk × Bool :=
    match after with
    | some d => (d, true)
    | none => (d, false)

/-- Runs steps until one fails, and names the path of that one. -/
def runAll (d : Disk) : List WriteStep → Disk × Option String
  | [] => (d, none)
  | s :: rest =>
    match s.run d with
    | (d, true) => runAll d rest
    | (d, false) => (d, some s.path)

end WriteStep

namespace AtomicWrite

/-- The hidden file that the content goes to first. -/
def stagingPath (path : String) : String :=
  Path.withFileName path ("." ++ (Path.fileName? path).getD "" ++ ".tmp")

/-- The steps that give a path new content. -/
def steps (path : String) (content : ByteArray) : List WriteStep :=
  let staging := stagingPath path
  let parents :=
    match Path.parent? path with
    | some parent => if parent.isEmpty then [] else [.makeDirectories parent]
    | none => []
  parents ++ [.truncate staging, .fill staging content, .rename staging path]

/-- Gives a path new content. -/
def run (d : Disk) (path : String) (content : ByteArray) : Disk × Outcome Unit :=
  match WriteStep.runAll d (steps path content) with
  | (d, none) => (d, .ok ())
  | (d, some blamed) => (d, Outcome.fail (.unwritable blamed))

end AtomicWrite

end ApiTypes

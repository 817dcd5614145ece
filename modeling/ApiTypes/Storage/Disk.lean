import ApiTypes.Storage.Path

/-!
A file system: what each place holds. There are files and directories, no links, and everything may
be read and written.
-/
namespace ApiTypes
open Text

/-- The names on the way from the root. -/
abbrev Place := List String

inductive Entry where
  | file (content : ByteArray)
  | directory

instance : DecidableEq Entry
  | .file a, .file b =>
    have := ByteArray.instDecidableEq a b
    decidable_of_iff (a = b) (by simp)
  | .directory, .directory => isTrue rfl
  | .file _, .directory | .directory, .file _ => isFalse nofun

/-- A file system and its current directory. -/
structure Disk where
  entries : List (Place × Entry)
  current : Place

/-- Why a path leads nowhere. -/
inductive Obstacle where
  /-- A name on the way does not exist. -/
  | missing
  /-- A file stands in the way, or the path is no path. -/
  | blocked
deriving DecidableEq

/-- Where a path leads. -/
inductive Spot where
  /-- To a directory that it does not name: the root, the directory itself or the one above. -/
  | directory (place : Place)
  /-- To a name in a directory. A slash behind the name asks for a directory. -/
  | child (place : Place) (name : String) (slash : Bool)

namespace Disk

/-- The longest name, in bytes. -/
def nameLimit : Nat := 255

/-- The shortest path that is too long, in bytes. -/
def pathLimit : Nat := 4096

/-- A file system with nothing but the current directory. -/
def fresh : Disk :=
  ⟨[(["work"], .directory)], ["work"]⟩

/-- What stands at a place; the root is always a directory. -/
def at? (d : Disk) (place : Place) : Option Entry :=
  if place.isEmpty then some .directory else d.entries.lookup place

/-- Takes away what stands at a place. -/
def erase (d : Disk) (place : Place) : Disk :=
  { d with entries := d.entries.filter (·.1 != place) }

/-- Puts an entry at a place. -/
def store (d : Disk) (place : Place) (e : Entry) : Disk :=
  { d with entries := (place, e) :: (d.erase place).entries }

theorem lookup_erase (d : Disk) (place p : Place) :
    (d.erase place).entries.lookup p = if p = place then none else d.entries.lookup p := by
  unfold erase
  induction d.entries with
  | nil => simp
  | cons e rest ih =>
    obtain ⟨q, e⟩ := e
    by_cases hq : q = place
    · subst hq
      by_cases hp : p = q
      · simpa [hp] using ih
      · simpa [hp, List.lookup_cons, beq_eq_false_iff_ne.2 hp] using ih
    · by_cases hp : p = q
      · subst hp
        simp [hq]
      · simpa [hq, List.lookup_cons, beq_eq_false_iff_ne.2 hp] using ih

/-- After storing, the place holds the new entry and every other place its own. -/
theorem at?_store {d : Disk} {place p : Place} {e : Entry} (h : place ≠ []) :
    (d.store place e).at? p = if p = place then some e else d.at? p := by
  by_cases hp : p = place
  · subst hp
    simp [at?, store, h]
  · by_cases hr : p = []
    · simp [at?, hr, Ne.symm h]
    · simp [at?, store, hr, hp, List.lookup_cons, beq_eq_false_iff_ne.2 hp, lookup_erase]

/-- Goes on by one segment, to a directory. -/
def walk (d : Disk) (place : Place) (segment : String) : Except Obstacle Place :=
  if Path.isIdle segment then .ok place
  else if segment = ".." then .ok place.dropLast
  else if nameLimit < segment.utf8ByteSize then .error .blocked
  else
    match d.at? (place ++ [segment]) with
    | some .directory => .ok (place ++ [segment])
    | some (.file _) => .error .blocked
    | none => .error .missing

/-- Where a path leads; all but its last segment must be directories. -/
def locate (d : Disk) (path : String) : Except Obstacle Spot := do
  if path.isEmpty then throw .missing
  if path.toList.contains '\x00' || pathLimit ≤ path.utf8ByteSize then throw .blocked
  let segments := split '/' path
  let names := segments.filter (· != "")
  match names.getLast? with
  | none => return .directory []
  | some last =>
    let place ← names.dropLast.foldlM d.walk (if Path.isAbsolute path then [] else d.current)
    if last = "." then return .directory place
    else if last = ".." then return .directory place.dropLast
    else if nameLimit < last.utf8ByteSize then throw .blocked
    else return .child place last (segments.getLast? == some "")

/-- Whether a path leads to a directory. -/
def isDirectory (d : Disk) (path : String) : Bool :=
  match d.locate path with
  | .ok (.directory _) => true
  | .ok (.child place name _) => d.at? (place ++ [name]) == some .directory
  | .error _ => false

/-- Makes one directory, where nothing stands yet. -/
def makeDirectory (d : Disk) (path : String) : Except Obstacle Disk :=
  match d.locate path with
  | .error e => .error e
  | .ok (.directory _) => .error .blocked
  | .ok (.child place name _) =>
    match d.at? (place ++ [name]) with
    | some _ => .error .blocked
    | none => .ok (d.store (place ++ [name]) .directory)

/--
Makes the directory that the first path names, after those of the other paths as far as they are
missing. The flag tells whether it is there in the end; what was made on the way stays.
-/
def makeDirectories (d : Disk) : List String → Disk × Bool
  | [] => (d, false)
  | path :: parents =>
    if path.isEmpty then (d, true)
    else
      match d.makeDirectory path with
      | .ok d => (d, true)
      | .error .blocked => (d, d.isDirectory path)
      | .error .missing =>
        match d.makeDirectories parents with
        | (d, false) => (d, false)
        | (d, true) =>
          match d.makeDirectory path with
          | .ok d => (d, true)
          | .error _ => (d, d.isDirectory path)

/-- The place of the file that a path may name, whether or not there is one. -/
def filePlace? (d : Disk) (path : String) : Option Place :=
  match d.locate path with
  | .ok (.child place name false) =>
    if d.at? (place ++ [name]) = some .directory then none else some (place ++ [name])
  | _ => none

/-- What the file at a path holds. -/
def read? (d : Disk) (path : String) : Option ByteArray := do
  match d.at? (← d.filePlace? path) with
  | some (.file content) => some content
  | _ => none

/-- The text that the file at a path holds. -/
def readText? (d : Disk) (path : String) : Option String := do
  String.fromUTF8? (← d.read? path)

/-- Gives the file at a path new content; the file may be new, its directory not. -/
def write? (d : Disk) (path : String) (content : ByteArray) : Option Disk := do
  return d.store (← d.filePlace? path) (.file content)

/-- Moves a file to another path, in place of the file that may stand there. -/
def rename? (d : Disk) (source target : String) : Option Disk := do
  let content ← d.read? source
  let target ← d.filePlace? target
  return (d.erase (← d.filePlace? source)).store target (.file content)

/-- The path of a place, seen from the current directory; `none` for a place outside it. -/
def relative? (d : Disk) (place : Place) : Option String :=
  if d.current.isPrefixOf place && place != d.current then
    some ("/".intercalate (place.drop d.current.length))
  else none

/-- The files below the current directory with their content, and its empty directories. -/
def listing (d : Disk) : List (String × Option ByteArray) :=
  let found := d.entries.filterMap fun (place, e) => do
    let path ← d.relative? place
    match e with
    | .file content => some (path, some content)
    | .directory =>
      if d.entries.any (fun other => place.isPrefixOf other.1 && other.1 != place) then none
      else some (path, none)
  found.mergeSort fun a b => a.1 ≤ b.1

end Disk

end ApiTypes

import ApiTypes.Text.Pieces

/-!
File paths as texts. A path is read segment by segment; blanks between slashes and single dots say
nothing, except a dot at the very start.
-/
namespace ApiTypes.Path
open Text

/-- Segments that say nothing behind another one. -/
def isIdle (segment : String) : Bool :=
  segment = "" || segment = "."

/-- Drops the idle segments at the end. -/
def trimIdle (segments : List String) : List String :=
  (segments.reverse.dropWhile isIdle).reverse

/-- A path that begins at the root. -/
def isAbsolute (path : String) : Bool :=
  path.toList.head? = some '/'

/-- The first segment, which is empty for an absolute path, and the segments behind it. -/
def parts (path : String) : String × List String :=
  match split '/' path with
  | [] => ("", [])
  | first :: rest => (first, trimIdle rest)

/-- The path with these parts. -/
def ofParts (absolute : Bool) (first : String) (rest : List String) : String :=
  if rest.isEmpty then if absolute then "/" else first
  else "/".intercalate (first :: rest)

/-- The path less its last segment; the root and the empty path have no parent. -/
def parent? (path : String) : Option String :=
  let (first, rest) := parts path
  let absolute := isAbsolute path
  if rest.isEmpty then if absolute || first.isEmpty then none else some ""
  else some (ofParts absolute first (trimIdle rest.dropLast))

/-- The last segment, if it is a name. -/
def fileName? (path : String) : Option String :=
  let (first, rest) := parts path
  let last := rest.getLast?.getD first
  if isIdle last || last = ".." then none else some last

/-- The path of `relative`, seen from `base`. -/
def join (base relative : String) : String :=
  if isAbsolute relative || base.isEmpty then relative
  else if base.toList.getLast? = some '/' then base ++ relative
  else base ++ "/" ++ relative

/-- The path with another last name; one without a name has it added. -/
def withFileName (path name : String) : String :=
  match fileName? path with
  | some _ => join ((parent? path).getD "") name
  | none => join path name

/-- The path and all its parents, the path first. -/
def ancestors (path : String) : List String :=
  go path.length path
where
  go : Nat → String → List String
    | 0, path => [path]
    | n + 1, path =>
      path :: match parent? path with
        | some parent => go n parent
        | none => []

end ApiTypes.Path

import ApiTypes.Text.Pieces
import ApiTypes.Unicode.CaseMap
import ApiTypes.Unicode.Cased

/-! Words and the bits of English in names and documentation. -/
namespace ApiTypes.Text
open Unicode

/-- The text with its first character made a capital. -/
def capitalize (s : String) : String :=
  match s.toList with
  | [] => ""
  | c :: rest => String.ofList (upperChar c ++ rest)

/--
Whether a word begins at the capital `c`: after a small letter or a digit, or when a small letter
follows and no underscore precedes. So a run of capitals stays together, less its last letter if
that begins a word.
-/
def beginsWord (previous : Char) (c : Char) (next : Option Char) : Bool :=
  isUppercase c &&
    (isLowercase previous || previous.isDigit || (next.any isLowercase && previous != '_'))

/-- Lower-cases the text after `previous`, with an underscore before each word but the first. -/
def snakeFrom : Option Char → List Char → List Char
  | _, [] => []
  | none, c :: rest => lowerChar c ++ snakeFrom (some c) rest
  | some previous, c :: rest =>
    (if beginsWord previous c rest.head? then ['_'] else []) ++ lowerChar c ++
      snakeFrom (some c) rest

/-- A camel-cased name in small letters, its words joined by underscores. -/
def snakeCase (s : String) : String :=
  String.ofList (snakeFrom none s.toList)

/-- A plain guess at the singular: `ies` becomes `y`, and another `s` at the end falls away. -/
def singular (s : String) : String :=
  match cutEnd? ['i', 'e', 's'] s.toList with
  | some stem => String.ofList (stem ++ ['y'])
  | none =>
    match cutEnd? ['s'] s.toList with
    | some stem => String.ofList stem
    | none => s

/-- An enumeration in English: `a, b and c`. -/
def enumeration : List String → String
  | [] => ""
  | [s] => s
  | s :: rest => ", ".intercalate (s :: rest).dropLast ++ " and " ++ (s :: rest).getLast (by simp)

/-- Every item between two copies of `mark`. -/
def enclose (mark : String) (items : List String) : List String :=
  items.map fun s => mark ++ s ++ mark

/-- Whether two names differ in the case of ASCII letters at most. -/
def sameIgnoringCase (a b : String) : Bool :=
  a.toList.map Char.toLower == b.toList.map Char.toLower

end ApiTypes.Text

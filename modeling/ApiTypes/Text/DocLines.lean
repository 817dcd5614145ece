import ApiTypes.Text.Pieces
import ApiTypes.Unicode.Blank

/-! The lines of a documentation comment. -/
namespace ApiTypes.Text
open Unicode

/-- A line without the blanks at its end, and with a space in front unless nothing is left. -/
def docLine (line : List Char) : String :=
  match trimEnd line with
  | [] => ""
  | kept => String.ofList (' ' :: kept)

/-- The comment lines of a text. -/
def docLines (text : String) : List String :=
  (lines text.toList).map docLine

end ApiTypes.Text

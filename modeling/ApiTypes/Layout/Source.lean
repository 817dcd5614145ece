import ApiTypes.Code.SourceModule
import ApiTypes.Layout.Box
import ApiTypes.Text.Literal

/-! The layout of generated code, four blanks for each level of indentation. -/
namespace ApiTypes
open Layout

namespace Layout

/-- A box whose gaps end their lines all together. -/
def block (indent : Int) (content : List Piece) : List Piece :=
  box .consistent indent content

/-- A box that fills its lines. -/
def filled (indent : Int) (content : List Piece) : List Piece :=
  box .inconsistent indent content

def text (s : String) : Piece := .text s

/-- A gap of so many blanks. -/
def gap (blanks : Nat) : Piece := .gap blanks 0 ""

/-- A gap of no width that ends a line one level further out, after a comma. -/
def lastComma : Piece := .gap 0 (-4) ","

def newline : Piece := .newline 0

/-- An end of line before something one level further out. -/
def newlineOut : Piece := .newline (-4)

/-- Pieces with commas and gaps between the parts. -/
def separated : List (List Piece) → List Piece
  | [] => []
  | [part] => part
  | part :: rest => part ++ [text ",", gap 1] ++ separated rest

/-- Lines of documentation, each after the sign for it. -/
def comment (sign : String) (lines : List String) : List Piece :=
  lines.flatMap fun line =>
    [text sign, text (String.ofList (Unicode.dropEndWhile (· == ' ') line.toList)), newline]

/-- An attribute with arguments. -/
def attributeLine (opening : String) (arguments : List String) (closing : String) : List Piece :=
  text opening ::
    block 4 (gap 0 :: separated (arguments.map fun a => [text a]) ++ [.gap 0 (-4) ""]) ++
    [text closing, gap 1]

/-- An attribute that rules how a type is read and written. -/
def codecAttribute (argument : String) : List Piece :=
  attributeLine "#[serde(" [argument] ")]"

end Layout

namespace TypeExpr

mutual

def layout : TypeExpr → List Piece
  | name i => [text i.text]
  | path segments arguments =>
    match arguments with
    | [] => [text ("::".intercalate segments)]
    | t :: rest =>
      [text ("::".intercalate segments), text "<"] ++
        block 4 (gap 0 :: t.layout ++ layoutMore rest ++ [lastComma]) ++ [text ">"]

def layoutMore : List TypeExpr → List Piece
  | [] => []
  | t :: rest => [text ",", gap 1] ++ t.layout ++ layoutMore rest

end

end TypeExpr

namespace FieldDecl

/-- A field with all before it, less the end of its line. -/
def layout (f : FieldDecl) : List Piece :=
  comment "///" f.doc ++
    (f.rename.map fun key => codecAttribute ("rename = " ++ Text.literal key)).getD [] ++
    (f.skip.map fun rule =>
      codecAttribute ("skip_serializing_if = " ++ Text.literal rule.path)).getD [] ++
    [text "pub ", text (f.ident.text ++ ": ")] ++ f.type.layout ++ [text ","]

/-- Fields line by line; the line after the last one is one level further out. -/
def layoutAll : List FieldDecl → List Piece
  | [] => []
  | [f] => f.layout ++ [newlineOut]
  | f :: rest => f.layout ++ newline :: layoutAll rest

end FieldDecl

namespace Declaration

/-- The traits that every generated type derives. -/
def derivedTraits : List String :=
  ["Debug", "Clone", "Default", "PartialEq", "Serialize", "Deserialize"]

def layout (d : Declaration) : List Piece :=
  let opening := "pub struct " ++ d.name.text
  attributeLine "#[derive(" derivedTraits ")]" ++
    match d.body with
    | .fields [] => [text (opening ++ " \x7b\x7d"), newline]
    | .fields fields =>
      codecAttribute "default" ++
        block 4 (text (opening ++ " \x7b") :: newline :: FieldDecl.layoutAll fields) ++
        [text "\x7d", newline]
    | .wrapper type =>
      block 4 ([text (opening ++ "("), gap 0, text "pub "] ++ type.layout ++ [lastComma, text ");"])
        ++ [newline]
    | .bare => [text (opening ++ ";"), newline]

end Declaration

namespace Statement

/-- The call that lists a part, with the given end of its line. -/
def layoutPush (part : String) (ending : Piece) : List Piece :=
  filled 0 (block 4 ([text "parts", gap 0, text ".push_str("] ++
    block 4 [gap 0, text (Text.literal part), lastComma] ++ [text ")"]) ++ [text ";"]) ++ [ending]

/-- A condition on a field, with the blank before its body. -/
def layoutCondition (negation : List Piece) (field : Ident) (test : String) : List Piece :=
  block (-4) (block 0 (negation ++
    block 4 [text "self", gap 0, text ("." ++ field.text), gap 0, text test] ++ [gap 1]))

/-- A statement, with the given end of its last line. -/
def layout (ending : Piece) : Statement → List Piece
  | declare => [text "let mut parts = String::new();", ending]
  | push part => layoutPush part ending
  | pop => [text "parts.pop();", ending]
  | when c body =>
    let condition :=
      match c with
      | .isSome field => layoutCondition [] field ".is_some()"
      | .isNotEmpty field => layoutCondition [text "!"] field ".is_empty()"
      | .endsWithComma => [text "parts.ends_with(',') "]
    filled 0 (block 4 (text "if " :: condition ++ [text "\x7b", newline] ++
      body.layout newlineOut ++ [text "\x7d"])) ++ [ending]

end Statement

namespace Accessor

def layout (a : Accessor) : List Piece :=
  let result := match a.result with
    | .emptyText => "String::new()"
    | .parts => "parts"
  block 4 ([text ("impl " ++ a.type.text ++ " \x7b"), newline] ++
    comment "///" (documentation.map fun line => if line.isEmpty then "" else " " ++ line) ++
    block 4 ([text "pub fn to_parts(&self) -> String \x7b", newline] ++
      a.body.flatMap (Statement.layout newline) ++ [text result, newlineOut]) ++
    [text "\x7d", newlineOut]) ++ [text "\x7d", newline]

end Accessor

namespace Item

def layout : Item → List Piece
  | declaration doc d => comment "///" doc ++ d.layout
  | markerImpl m type =>
    block 4 (filled (-4) [text ("impl " ++ m.name), gap 1, text ("for " ++ type.text)] ++
      [text " \x7b", .emptyBody]) ++ [text "\x7d", newline]
  | accessor a => a.layout
  | markerTrait m =>
    comment "///" (Text.docLines m.documentationText) ++
      [text ("pub trait " ++ m.name ++ " \x7b\x7d"), newline]
  | codecImport => [text "use serde::\x7bDeserialize, Serialize\x7d;", newline]

/-- The code of items, one after another. -/
def render (items : List Item) : String :=
  Layout.render (block 0 (items.flatMap layout))

end Item

namespace SourceModule

/-- Whether every block comment begun in a text ends in it, and none ends before it begins. -/
def closesComments : Nat → List Char → Bool
  | depth, '/' :: '*' :: rest => closesComments (depth + 1) rest
  | depth, '*' :: '/' :: rest =>
    match depth with
    | 0 => false
    | depth + 1 => closesComments depth rest
  | depth, _ :: rest => closesComments depth rest
  | depth, [] => depth = 0

/-- Whether a text can stand inside a block comment; its last character must not end one early. -/
def fitsBlockComment (line : List Char) : Bool :=
  closesComments 0 line && line.getLast? != some '/'

/-- A text without the blanks before its line ends. -/
def trimLineEnds (s : List Char) : List Char :=
  match (Text.pieces '\n' s).reverse with
  | [] => []
  | last :: before =>
    (before.reverse.flatMap fun line => Unicode.dropEndWhile (· == ' ') line ++ ['\n']) ++ last

/-- A line of module documentation; one that holds several lines needs another form. -/
def layoutDocLine (line : String) : List Piece :=
  if !line.toList.contains '\n' then comment "//!" [line]
  else if fitsBlockComment line.toList then
    [text "/*!", text (String.ofList (trimLineEnds line.toList)), text "*/", newline]
  else [text ("#![doc = " ++ Text.literal line ++ "]"), gap 1]

/-- The code of a module. -/
def render (m : SourceModule) : String :=
  Layout.render (block 0 (m.doc.flatMap layoutDocLine ++ m.items.flatMap Item.layout))

/-- The notice above the code, which names the document it was made of. -/
def notice (d : Document) : String :=
  "// This code was automatically generated by discogen-gen. Do not edit manually.\n" ++
    "// Source: the `" ++ d.name ++ "` `" ++ d.version ++ "` discovery document.\n\n"

/-- The text of the file that a document becomes. -/
def fileText (d : Document) (m : SourceModule) : String :=
  notice d ++ m.render

end SourceModule

end ApiTypes

import ApiTypes.Ident
import ApiTypes.Text.Words
import ApiTypes.Unicode.Alphanumeric

/-! Names of generated fields, types and modules. -/
namespace ApiTypes.Naming
open Text Unicode

/-- The words that a field cannot be named after. -/
def reservedFieldNames : List String :=
  ["abstract", "as", "async", "await", "become", "box", "break", "const", "continue", "crate", "do",
    "dyn", "else", "enum", "extern", "false", "final", "fn", "for", "gen", "if", "impl", "in",
    "let", "loop", "macro", "match", "mod", "move", "mut", "override", "priv", "pub", "ref",
    "return", "self", "static", "struct", "super", "trait", "true", "try", "type", "typeof",
    "unsafe", "unsized", "use", "virtual", "where", "while", "yield"]

/-- The character, or an underscore in place of one that no name can hold. -/
def nameChar (c : Char) : Char :=
  if isAlphanumeric c || c == '_' then c else '_'

/-- An underscore in front of a name that would be empty or begin with a digit. -/
def guardStart (name : List Char) : List Char :=
  match name with
  | [] => ['_']
  | c :: _ => if c.isDigit then '_' :: name else name

/-- An underscore after a reserved word. -/
def avoidReserved (name : String) : String :=
  if reservedFieldNames.contains name then name.push '_' else name

/-- The field name made of a property name. -/
def fieldName (property : String) : String :=
  avoidReserved (String.ofList (guardStart ((snakeCase property).toList.map nameChar)))

/-- The type name of the anonymous object that a property holds. -/
def nestedTypeName (schema property : String) : String :=
  schema ++ capitalize property

/-- The module name of an API: its name and the number of its version `v<number>`. -/
def moduleName? (name version : String) : Option String :=
  match version.toList with
  | 'v' :: c :: rest => some (name ++ String.ofList (c :: rest))
  | _ => none

end ApiTypes.Naming

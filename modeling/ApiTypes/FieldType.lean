import ApiTypes.Error
import ApiTypes.Ident

/-! The types of generated fields, and how they are shown and written. -/
namespace ApiTypes

/-- The type of a generated field. -/
inductive FieldType where
  | bool
  | string
  | i32
  | u32
  | i64
  | u64
  | f32
  | f64
  /-- Any JSON value. -/
  | json
  /-- Another generated type. -/
  | named (name : String)
  | list (element : FieldType)
  /-- A map from strings. -/
  | map (value : FieldType)
  | option (value : FieldType)
deriving DecidableEq, Inhabited

/-- How a value of some type tells that it is populated. -/
inductive Presence where
  /-- A list or map is populated when it has an element. -/
  | nonEmpty
  /-- An option is populated when it holds a value. -/
  | isSome
  /-- Any other value always is. -/
  | always
deriving DecidableEq

/-- A type as the generated code writes it. -/
inductive TypeExpr where
  | name (i : Ident)
  /-- A path to a type of the language or of a library, with arguments. -/
  | path (segments : List String) (arguments : List TypeExpr)

namespace FieldType

def isCollection : FieldType → Bool
  | list _ | map _ => true
  | _ => false

def isOptional : FieldType → Bool
  | option _ => true
  | _ => false

def presence (t : FieldType) : Presence :=
  if t.isCollection then .nonEmpty else if t.isOptional then .isSome else .always

/-- The type as documentation shows it. -/
def display : FieldType → String
  | bool => "bool"
  | string => "String"
  | i32 => "i32"
  | u32 => "u32"
  | i64 => "i64"
  | u64 => "u64"
  | f32 => "f32"
  | f64 => "f64"
  | json => "serde_json::Value"
  | named name => name
  | list element => "Vec<" ++ element.display ++ ">"
  | map value => "HashMap<String, " ++ value.display ++ ">"
  | option value => "Option<" ++ value.display ++ ">"

/-- The type as code; there is none when a name in it is no identifier. -/
def expr : FieldType → Outcome TypeExpr
  | bool => .ok (.path ["bool"] [])
  | string => .ok (.path ["String"] [])
  | i32 => .ok (.path ["i32"] [])
  | u32 => .ok (.path ["u32"] [])
  | i64 => .ok (.path ["i64"] [])
  | u64 => .ok (.path ["u64"] [])
  | f32 => .ok (.path ["f32"] [])
  | f64 => .ok (.path ["f64"] [])
  | json => .ok (.path ["serde_json", "Value"] [])
  | named name =>
    match Ident.ofText? name with
    | some i => .ok (.name i)
    | none => .error (.noIdentifier name)
  | list element => return .path ["Vec"] [← element.expr]
  | map value =>
    return .path ["std", "collections", "HashMap"] [.path ["String"] [], ← value.expr]
  | option value => return .path ["Option"] [← value.expr]

end FieldType

namespace TypeExpr

mutual

/-- The tokens of a type. -/
def tokens : TypeExpr → List String
  | name i => [i.text]
  | path segments arguments =>
    segments.intersperse "::" ++
      match arguments with
      | [] => []
      | t :: rest => "<" :: (t.tokens ++ moreTokens rest) ++ [">"]

/-- The tokens of further arguments. -/
def moreTokens : List TypeExpr → List String
  | [] => []
  | t :: rest => "," :: t.tokens ++ moreTokens rest

end

end TypeExpr

end ApiTypes

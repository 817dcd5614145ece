/-! The type tags that a descriptor may carry. -/
namespace ApiTypes

/-- The JSON type of a schema or property. -/
inductive JsonType where
  | object
  | array
  | string
  | integer
  | number
  | boolean
  /-- Any JSON value. -/
  | any
deriving DecidableEq, Repr, Inhabited

namespace JsonType

/-- All tags in order. -/
def all : List JsonType :=
  [.object, .array, .string, .integer, .number, .boolean, .any]

/-- The tag as documents write it. -/
def name : JsonType → String
  | object => "object"
  | array => "array"
  | string => "string"
  | integer => "integer"
  | number => "number"
  | boolean => "boolean"
  | any => "any"

/-- The tag with a given name; case matters. -/
def ofName? (s : String) : Option JsonType :=
  all.find? (·.name == s)

theorem ofName?_name (t : JsonType) : ofName? t.name = some t := by
  cases t <;> decide

end JsonType

end ApiTypes

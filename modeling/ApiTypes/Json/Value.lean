/-!
JSON values as they are read: members keep their order and may repeat a key, numbers keep their
spelling, and a text that holds a lone surrogate is no text of characters.
-/
namespace ApiTypes.Json

/-- A JSON value. A `string` or key is `none` when its escapes leave a surrogate without its pair. -/
inductive Value where
  | null
  | bool (b : Bool)
  | number (spelling : String)
  | string (text : Option String)
  | array (items : List Value)
  | object (members : List (Option String × Value))
deriving Inhabited

/-- A key with its value. -/
abbrev Member := Option String × Value

/-- A string value with the given text. -/
def Value.text (s : String) : Value :=
  .string (some s)

/-- A member with the given key. -/
def member (key : String) (v : Value) : Member :=
  (some key, v)

end ApiTypes.Json

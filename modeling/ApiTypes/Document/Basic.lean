import ApiTypes.Schema.Node

/-! Discovery documents: a catalog of schemas, and resources whose methods use them. -/
namespace ApiTypes

/-- The part that a schema plays in a method. -/
inductive IoRole where
  /-- The schema is sent to the method. -/
  | request
  /-- The schema is returned by the method. -/
  | response
deriving DecidableEq, Repr, Inhabited

namespace IoRole

/-- Both roles in order. -/
def all : List IoRole :=
  [.request, .response]

def name : IoRole → String
  | request => "request"
  | response => "response"

/-- The role with a given name; case matters. -/
def ofName? (s : String) : Option IoRole :=
  all.find? (·.name == s)

theorem ofName?_name (r : IoRole) : ofName? r.name = some r := by
  cases r <;> decide

end IoRole

/-- A reference to a schema of the catalog. -/
structure Reference where
  target : String
deriving DecidableEq, Inhabited

/-- One callable method of the API. -/
structure Method where
  /-- The full activity name, as in `youtube.videos.list`. -/
  id : String := ""
  httpMethod : Option String := none
  path : Option String := none
  description : Option String := none
  request : Option Reference := none
  response : Option Reference := none
deriving DecidableEq, Inhabited

/-- The schema that plays `role` for the method. -/
def Method.roleReference (m : Method) : IoRole → Option Reference
  | .request => m.request
  | .response => m.response

/-- A group of methods, perhaps with groups of its own. -/
structure Resource where
  methods : List (String × Method) := []
  resources : List (String × Resource) := []
deriving Inhabited

/-- A description of an API. -/
structure Document where
  name : String := ""
  version : String := ""
  title : Option String := none
  description : Option String := none
  schemas : Table SchemaNode := []
  resources : Table Resource := []
deriving Inhabited

namespace Document

/-- Gives every schema without a name of its own the key it stands under. -/
def nameSchemas (d : Document) : Document :=
  { d with schemas := d.schemas.map fun (key, s) =>
      (key, if s.id.isEmpty then { s with id := key } else s) }

end Document

end ApiTypes

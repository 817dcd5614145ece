import ApiTypes.Schema.Property

/-! Schemas of the catalog, and the four shapes that their declarations take. -/
namespace ApiTypes

/-- A named schema. -/
structure SchemaNode where
  /-- The name of the schema, which is also the name of its type. -/
  id : String := ""
  kind : Option JsonType := none
  description : Option String := none
  format : Option String := none
  properties : Table Property := []
  items : Option Property := none
  additional : Option Property := none
  /-- Set for schemas made of anonymous objects; documents do not write it. -/
  nested : Bool := false
deriving Inhabited

/-- The shape of a declaration. -/
inductive Shape where
  /-- An object with named fields, perhaps none. -/
  | object (fields : Table Property)
  /-- An array of anonymous objects, whose fields are declared on the schema itself. -/
  | records (fields : Table Property)
  /-- An array of anything else. -/
  | list (items : Property)
  /-- A schema without structure. -/
  | other

/-- Why a schema has no shape. -/
inductive ShapeError where
  | missingItems (schema : String)
  | missingType (schema : String)
deriving DecidableEq

namespace ShapeError

def message : ShapeError → String
  | missingItems schema => "array schema '" ++ schema ++ "' has no items descriptor"
  | missingType schema => "schema '" ++ schema ++ "' has no type"

end ShapeError

namespace SchemaNode

/-- The shape of a schema. -/
def shape (s : SchemaNode) : Except ShapeError Shape :=
  match s.kind with
  | some .object => .ok (.object s.properties)
  | some .array =>
    match s.items with
    | none => .error (.missingItems s.id)
    | some items =>
      match items.properties with
      | some fields => .ok (if items.kind = some .object then .records fields else .list items)
      | none => .ok (.list items)
  | some _ => .ok .other
  | none => .error (.missingType s.id)

/-- The schema of an anonymous object: its fields under a name of its own. -/
def ofProperty (id : String) (p : Property) : SchemaNode where
  id := id
  kind := p.kind
  description := p.description
  format := p.format
  properties := p.properties.getD []
  items := p.items
  additional := p.additional
  nested := true

/-- The schema seen as a required property. -/
def asProperty (s : SchemaNode) : Property where
  kind := s.kind
  description := s.description
  format := s.format
  required := true
  items := s.items
  additional := s.additional
  properties := if s.properties.isEmpty then none else some s.properties

end SchemaNode

end ApiTypes

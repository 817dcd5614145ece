import ApiTypes.Schema.JsonType
import ApiTypes.Table

/-! Property descriptors: the data shape of one field, array element or map value. -/
namespace ApiTypes

/-- A property descriptor. A well-formed one has either a type tag or a reference. -/
structure Property where
  kind : Option JsonType := none
  /-- The name of another schema of the catalog. -/
  reference : Option String := none
  description : Option String := none
  /-- Refines numeric types, as `int32` or `double` do. -/
  format : Option String := none
  required : Bool := false
  /-- The elements of an array. -/
  items : Option Property := none
  /-- The values of a map. -/
  additional : Option Property := none
  /-- The fields of an anonymous object. -/
  properties : Option (List (String × Property)) := none
deriving Inhabited

namespace Property

/-- A descriptor with a type tag only. -/
def of (kind : JsonType) : Property :=
  { kind := some kind }

/-- A descriptor that refers to another schema. -/
def referTo (id : String) : Property :=
  { reference := some id }

/-- An array of the given elements. -/
def arrayOf (items : Property) : Property :=
  { kind := some .array, items := some items }

/-- A map to the given values. -/
def mapOf (values : Property) : Property :=
  { kind := some .object, additional := some values }

/-- An anonymous object with the given fields. -/
def ofFields (fields : Table Property) : Property :=
  { kind := some .object, properties := some fields }

/-- An object with a field list of its own, even an empty one. -/
def isNestedObject (p : Property) : Bool :=
  p.kind == some .object && p.properties.isSome

end Property

end ApiTypes

import ApiTypes.Code.Accessor
import ApiTypes.Code.Declaration
import ApiTypes.Code.Header

/-! All code that one schema becomes. -/
namespace ApiTypes

/-- An item of a generated module. -/
inductive Item where
  | declaration (doc : List String) (d : Declaration)
  /-- Gives a type a marker. -/
  | markerImpl (m : Marker) (type : Ident)
  | accessor (a : Accessor)
  /-- Declares the trait of a marker. -/
  | markerTrait (m : Marker)
  /-- Imports the traits for reading and writing. -/
  | codecImport

/-- The code of one schema. -/
structure TypeUnit where
  typeName : Ident
  doc : List String
  declaration : Declaration
  markers : List Marker
  /-- Only types that are sent as requests have an accessor. -/
  accessor : Option Accessor

namespace TypeUnit

/-- The code of a schema, which depends on nothing but the schema and its context. -/
def ofSchema (c : Context) (s : SchemaNode) : Outcome TypeUnit := do
  let typeName ← Declaration.typeName s.id
  let doc ← (Header.lines s c).mapError .error
  let declaration ← Declaration.ofSchema s
  let markers := c.markers s
  let accessor ←
    if Marker.requestValue ∈ markers then
      some <$> Accessor.ofFields typeName <$> Field.ofSchema s
    else pure none
  return { typeName, doc, declaration, markers, accessor }

/-- The items of a unit, in order. -/
def items (u : TypeUnit) : List Item :=
  .declaration u.doc u.declaration :: u.markers.map (.markerImpl · u.typeName) ++
    (u.accessor.map .accessor).toList

end TypeUnit

end ApiTypes

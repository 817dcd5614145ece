import ApiTypes.FieldType.Mapping

/-! The named fields that the declaration of a schema has. -/
namespace ApiTypes

/-- A field of a declaration. -/
structure Field where
  /-- The property name, as documents and requests write it. -/
  wireName : String
  ident : Ident
  type : FieldType
  description : Option String
deriving DecidableEq

namespace Field

/-- A field is renamed when its name differs from the property name. -/
def isRenamed (f : Field) : Bool :=
  f.ident.text != f.wireName

/-- The field of one property, whose name must not be among `taken`. -/
def ofProperty (schema : String) (taken : List String) (property : String) (p : Property) :
    Outcome Field := do
  let name := Naming.fieldName property
  if !Ident.accepts name then
    Outcome.fail (.code (.badFieldName schema property))
  if taken.contains name then
    Outcome.fail (.code (.fieldClash schema property name))
  match Ident.ofText? name with
  | none => .error (.noIdentifier name)
  | some ident =>
    let type ← (FieldType.ofProperty schema property p).mapError .error
    return ⟨property, ident, type, p.description⟩

/-- The fields of a property list, in order; the first bad property decides the error. -/
def ofProperties (schema : String) : List String → Table Property → Outcome (List Field)
  | _, [] => .ok []
  | taken, (property, p) :: rest => do
    let field ← ofProperty schema taken property p
    return field :: (← ofProperties schema (Naming.fieldName property :: taken) rest)

/-- The named fields of a schema. Lists and schemas without structure have none. -/
def ofSchema (s : SchemaNode) : Outcome (List Field) := do
  match ← s.shape.mapError (Failure.error ∘ GenerationError.shape) with
  | .object fields | .records fields => ofProperties s.id [] fields
  | .list _ | .other => return []

end Field

end ApiTypes

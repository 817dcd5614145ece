import ApiTypes.Code.Field
import ApiTypes.Text.DocLines

/-! The declaration of the type that a schema becomes. -/
namespace ApiTypes

/-- When a field is left out of what is written. -/
inductive SkipRule where
  | optionIsNone
  | listIsEmpty
  | mapIsEmpty
deriving DecidableEq

namespace SkipRule

/-- The function that decides it, as the generated code names it. -/
def path : SkipRule → String
  | optionIsNone => "Option::is_none"
  | listIsEmpty => "Vec::is_empty"
  | mapIsEmpty => "std::collections::HashMap::is_empty"

/-- The rule for fields of a type; fields that always hold a value are always written. -/
def ofType? : FieldType → Option SkipRule
  | .option _ => some optionIsNone
  | .list _ => some listIsEmpty
  | .map _ => some mapIsEmpty
  | _ => none

end SkipRule

/-- A field as it is declared, with its documentation and attributes. -/
structure FieldDecl where
  doc : List String
  /-- The key that is read and written in place of the field name. -/
  rename : Option String
  skip : Option SkipRule
  ident : Ident
  type : TypeExpr

/-- What stands after the name of a declared type. -/
inductive DeclBody where
  | fields (fields : List FieldDecl)
  /-- A single unnamed value. -/
  | wrapper (type : TypeExpr)
  /-- Nothing. -/
  | bare

/-- The declaration of a type. -/
structure Declaration where
  name : Ident
  body : DeclBody

namespace FieldDecl

/-- The comment of a field without a description. -/
def noDescription : String := "no description provided"

/-- The declared form of a field. -/
def ofField (f : Field) : Outcome FieldDecl :=
  return {
    doc := Text.docLines (f.description.getD noDescription)
    rename := if f.isRenamed then some f.wireName else none
    skip := SkipRule.ofType? f.type
    ident := f.ident
    type := ← f.type.expr }

/-- The key under which the field is read and written. -/
def key (f : FieldDecl) : String :=
  f.rename.getD f.ident.text

end FieldDecl

namespace Declaration

/-- The identifier of the type of a schema. -/
def typeName (id : String) : Outcome Ident :=
  if !Ident.accepts id then Outcome.fail (.code (.badTypeName id))
  else
    match Ident.ofText? id with
    | some i => .ok i
    | none => .error (.noIdentifier id)

/-- The declaration of a schema, after its shape. -/
def ofSchema (s : SchemaNode) : Outcome Declaration := do
  let name ← typeName s.id
  match ← s.shape.mapError (Failure.error ∘ GenerationError.shape) with
  | .object properties | .records properties =>
    let fields ← Field.ofProperties s.id [] properties
    return ⟨name, .fields (← fields.mapM FieldDecl.ofField)⟩
  | .list items =>
    let type ← (FieldType.ofProperty s.id FieldType.listElement (.arrayOf items)).mapError .error
    return ⟨name, .wrapper (← type.expr)⟩
  | .other => return ⟨name, .bare⟩

end Declaration

end ApiTypes

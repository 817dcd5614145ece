import ApiTypes.FieldType.Mapping

/-!
The schemas of anonymous objects. No catalog lists them, but the type mapping names them after the
schema and the property that hold them, so each becomes a schema of that name.
-/
namespace ApiTypes
open Naming

/-- The anonymous object that a property declares, seen through arrays and maps. -/
def Property.anonymousObject? : Property → Option Property
  | ⟨kind, reference, description, format, required, items, additional, properties⟩ =>
    match reference with
    | some _ => none
    | none =>
      match kind, properties with
      | some .object, some fields =>
        some ⟨some .object, none, description, format, required, items, additional, some fields⟩
      | some .object, none =>
        match additional with
        | some value => value.anonymousObject?
        | none => none
      | some .array, _ =>
        match items with
        | some element => element.anonymousObject?
        | none => none
      | _, _ => none

mutual

/-- The schemas of the anonymous object in a property and of those inside it, under `id`. -/
def Property.nestedSchemas (id : String) : Property → List SchemaNode
  | ⟨kind, reference, description, format, required, items, additional, properties⟩ =>
    match reference with
    | some _ => []
    | none =>
      match kind, properties with
      | some .object, some fields =>
        .ofProperty id
          ⟨some .object, none, description, format, required, items, additional, some fields⟩ ::
          nestedSchemasOfFields id fields
      | some .object, none =>
        match additional with
        | some value => value.nestedSchemas id
        | none => []
      | some .array, _ =>
        match items with
        | some element => element.nestedSchemas id
        | none => []
      | _, _ => []

/-- The schemas of the anonymous objects among the fields of a schema, each before its inner ones. -/
def nestedSchemasOfFields (schema : String) : List (String × Property) → List SchemaNode
  | [] => []
  | (name, p) :: rest =>
    p.nestedSchemas (nestedTypeName schema name) ++ nestedSchemasOfFields schema rest

end

/-- The schemas found in a property begin with that of its anonymous object. -/
theorem Property.nestedSchemas_eq (id : String) (p : Property) :
    p.nestedSchemas id =
      match p.anonymousObject? with
      | none => []
      | some o => .ofProperty id o :: nestedSchemasOfFields id (o.properties.getD []) := by
  fun_induction Property.anonymousObject? p with
  | case1 => simp [Property.nestedSchemas]
  | case2 => simp [Property.nestedSchemas]
  | case3 description format required items value ih => simpa [Property.nestedSchemas] using ih
  | case4 => simp [Property.nestedSchemas]
  | case5 description format required additional properties element ih =>
    simpa [Property.nestedSchemas] using ih
  | case6 => simp [Property.nestedSchemas]
  | case7 kind description format required items additional properties h1 h2 h3 =>
    unfold Property.nestedSchemas
    split <;> simp_all

/-- The properties that the declaration of a schema maps. -/
def Shape.mappedProperties : Shape → Table Property
  | .object fields | .records fields => fields
  | .list items => [(FieldType.listElement, items)]
  | .other => []

/-- The schemas of the anonymous objects in one schema. -/
def SchemaNode.nestedSchemas (s : SchemaNode) : Except ShapeError (List SchemaNode) := do
  return nestedSchemasOfFields s.id (← s.shape).mappedProperties

/-- The schemas of the anonymous objects in a catalog, schema by schema. -/
def nestedSchemas (catalog : List SchemaNode) : Except ShapeError (List SchemaNode) := do
  return (← catalog.mapM SchemaNode.nestedSchemas).flatten

end ApiTypes

import ApiTypes.Code.Declaration
import ApiTypes.Proofs.FieldList

/-!
The types in a declaration. It writes one type for each descriptor that it declares: for each
property of an object, and for the one value of a list.
-/
namespace ApiTypes
variable {s : SchemaNode} {decl : Declaration} {shape : Shape}

/-- The types that a declaration writes, in order. -/
def Declaration.types (decl : Declaration) : List TypeExpr :=
  match decl.body with
  | .fields fields => fields.map FieldDecl.type
  | .wrapper type => [type]
  | .bare => []

/-- The types of the fields of a schema, where the one value of a list is a field, too. -/
def SchemaNode.fieldTypes (s : SchemaNode) : Outcome (List FieldType) := do
  match ← s.shape.mapError (Failure.error ∘ GenerationError.shape) with
  | .object properties | .records properties =>
    return (← Field.ofProperties s.id [] properties).map Field.type
  | .list items =>
    return [← (FieldType.ofProperty s.id FieldType.listElement (.arrayOf items)).mapError .error]
  | .other => return []

/-- The descriptors that a declaration of the given shape declares. A list is declared as a whole,
under the name of its elements. -/
def Shape.declared : Shape → Table Property
  | .object fields | .records fields => fields
  | .list items => [(FieldType.listElement, .arrayOf items)]
  | .other => []

/-- The declaration writes the types of the descriptors of a schema, one for each in order. -/
def Declaration.Writes (decl : Declaration) (schema : String) (descriptors : Table Property) :
    Prop :=
  ∃ types, List.Forall₂ (fun q t => FieldType.ofProperty schema q.1 q.2 = .ok t) descriptors types ∧
    List.Forall₂ (fun t e => t.expr = .ok e) types decl.types

/-- A declaration writes the types of the fields of its schema. -/
theorem Declaration.exists_fieldTypes (h : Declaration.ofSchema s = .ok decl) :
    ∃ types, s.fieldTypes = .ok types ∧
      List.Forall₂ (fun t e => t.expr = .ok e) types decl.types := by
  obtain ⟨name, _, h⟩ := Outcome.bind_ok_iff.1 h
  obtain ⟨shape, hshape, h⟩ := Outcome.bind_ok_iff.1 h
  cases shape with
  | object properties | records properties =>
    obtain ⟨fields, hfields, h⟩ := Outcome.bind_ok_iff.1 h
    obtain ⟨decls, hdecls, hdecl⟩ := Outcome.bind_ok_iff.1 h
    cases hdecl
    refine ⟨fields.map Field.type,
      Outcome.bind_ok_iff.2 ⟨_, hshape, Outcome.bind_ok_iff.2 ⟨fields, hfields, rfl⟩⟩, ?_⟩
    rw [types, List.forall₂_map_left_iff, List.forall₂_map_right_iff]
    refine (Outcome.mapM_ok_iff.1 hdecls).imp fun f fd hfd => ?_
    obtain ⟨type, htype, hfd⟩ := Outcome.bind_ok_iff.1 hfd
    cases hfd
    exact htype
  | list items =>
    obtain ⟨type, htype, h⟩ := Outcome.bind_ok_iff.1 h
    obtain ⟨expr, hexpr, hdecl⟩ := Outcome.bind_ok_iff.1 h
    cases hdecl
    exact ⟨[type], Outcome.bind_ok_iff.2 ⟨_, hshape, Outcome.bind_ok_iff.2 ⟨type, htype, rfl⟩⟩,
      .cons hexpr .nil⟩
  | other =>
    cases h
    exact ⟨[], Outcome.bind_ok_iff.2 ⟨_, hshape, rfl⟩, .nil⟩

/-- The fields of a schema have the types of what its declaration declares. -/
theorem SchemaNode.forall₂_fieldTypes {types : List FieldType} (h : s.fieldTypes = .ok types)
    (hshape : s.shape = .ok shape) :
    List.Forall₂ (fun q t => FieldType.ofProperty s.id q.1 q.2 = .ok t) shape.declared types := by
  obtain ⟨_, hshape', h⟩ := Outcome.bind_ok_iff.1 h
  cases (Outcome.mapError_ok_iff.1 hshape').symm.trans hshape
  cases shape with
  | object properties | records properties =>
    obtain ⟨fields, hfields, htypes⟩ := Outcome.bind_ok_iff.1 h
    cases htypes
    rw [List.forall₂_map_right_iff]
    exact (Field.ofProperties_ok_iff.1 hfields).1.imp fun _ _ hf => hf.type_eq
  | list items =>
    obtain ⟨type, htype, htypes⟩ := Outcome.bind_ok_iff.1 h
    cases htypes
    exact .cons (Outcome.mapError_ok_iff.1 htype) .nil
  | other =>
    cases h
    exact .nil

/-- A declaration writes the types of all that is declared, and no others. -/
theorem Declaration.writes_of_ofSchema (h : ofSchema s = .ok decl) (hshape : s.shape = .ok shape) :
    decl.Writes s.id shape.declared := by
  obtain ⟨types, htypes, hall⟩ := exists_fieldTypes h
  exact ⟨types, s.forall₂_fieldTypes htypes hshape, hall⟩

end ApiTypes

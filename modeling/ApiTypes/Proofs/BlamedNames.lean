import ApiTypes.Proofs.FirstViolation
import ApiTypes.Proofs.ResolvedFields
import ApiTypes.Proofs.UnitFailures

/-!
Who is blamed for a name that is refused. The name of an anonymous object is first looked at where
it is made: in the declaration of the schema around the object, which comes before that of the
object. So it is a property of that schema that an error tells of. Only a name that the document
itself gives a schema is called the name of a schema.
-/
namespace ApiTypes
open Naming

/-- The property of the schema holds the anonymous object that the node is made of. -/
def SchemaNode.Derives (s : SchemaNode) (q : String × Property) (node : SchemaNode) : Prop :=
  ∃ shape o, s.shape = .ok shape ∧ q ∈ shape.mappedProperties ∧ q.2.anonymousObject? = some o ∧
    node = .ofProperty (nestedTypeName s.id q.1) o

/-- Nothing is wrong with the schema up to the type of one of its properties: it has a name, its
activities can be told, and the properties before that one have become fields. -/
structure SchemaNode.IsFineUpTo (c : Context) (s : SchemaNode) (q : String × Property) : Prop where
  name_ok : ∃ i, Declaration.typeName s.id = .ok i
  activities_ok : ∃ text, Header.activities s c = .ok text
  fields_ok : ∀ properties,
    (s.shape = .ok (.object properties) ∨ s.shape = .ok (.records properties)) →
      ∃ before after fields, properties = before ++ q :: after ∧
        Field.ofProperties s.id [] before = .ok fields ∧
        Ident.accepts (fieldName q.1) = true ∧ ∀ r ∈ before, fieldName r.1 ≠ fieldName q.1

/-- What can be wrong with a schema that has no unit. -/
inductive SchemaNode.Fault (c : Context) (s : SchemaNode) : GenerationError → Prop
  | name (refused : Ident.accepts s.id = false) : s.Fault c (.code (.badTypeName s.id))
  | activities {e : GenerationError} (error : Header.activities s c = .error e) : s.Fault c e
  | format {format : String} (unknown : s.HasUnknownFormat format) :
      s.Fault c (.unknownFormat s.id FieldType.listElement format)
  | shape {e : ShapeError} (shape_eq : s.shape = .error e) : s.Fault c (.shape e)
  | field {properties before : Table Property} {q : String × Property} {e : GenerationError}
      (shape_eq : s.shape = .ok (.object properties) ∨ s.shape = .ok (.records properties))
      (mem : q ∈ properties) (fault : Field.Fault s.id before q.1 q.2 e) : s.Fault c e
  | elements {items : Property} {e : GenerationError} (shape_eq : s.shape = .ok (.list items))
      (error : FieldType.ofProperty s.id FieldType.listElement (.arrayOf items) = .error e) :
      s.Fault c e

variable {c : Context} {d : Document} {s node : SchemaNode} {q : String × Property}
  {e : GenerationError} {f : Failure} {i : Ident} {schema property name id : String}

namespace FieldType
variable {mayBeOptional : Bool} {p : Property}

theorem ofScalar_ne_badNestedName {kind : JsonType} {format : Option String}
    {schema' property' : String} : ofScalar schema property kind format ≠
      .error (.unmappable schema' property' (.badNestedName name)) := by
  rw [Ne, ofScalar_error_iff]
  rintro (⟨_, h⟩ | ⟨_, _, _, _, h⟩) <;> cases h

/-- The name of an anonymous object is refused wherever a type is made of it. -/
theorem ofDescriptor_badNestedName_iff {schema' property' : String} :
    ofDescriptor schema property mayBeOptional p =
        .error (.unmappable schema' property' (.badNestedName name)) ↔
      schema' = schema ∧ property' = property ∧ name = nestedTypeName schema property ∧
        Ident.accepts name = false ∧ ∃ o, p.anonymousObject? = some o := by
  fun_induction Property.anonymousObject? p generalizing mayBeOptional with
  | case1 =>
    simp only [ofDescriptor]
    split <;> simp
  | case2 =>
    simp only [ofDescriptor]
    split
    · next haccepted =>
      refine iff_of_false (by simp) ?_
      rintro ⟨rfl, rfl, rfl, hrefused, _⟩
      cases haccepted.symm.trans hrefused
    · next hrefused =>
      rw [Except.error.injEq, GenerationError.unmappable.injEq,
        UnmappableReason.badNestedName.injEq]
      constructor
      · rintro ⟨rfl, rfl, rfl⟩
        exact ⟨rfl, rfl, rfl, by simpa using hrefused, _, rfl⟩
      · rintro ⟨rfl, rfl, rfl, _⟩
        exact ⟨rfl, rfl, rfl⟩
  | case3 _ _ _ _ _ ih | case5 _ _ _ _ _ _ ih =>
    simp only [ofDescriptor, Outcome.map_error_iff]
    exact ih
  | case4 | case6 => simp [ofDescriptor]
  | case7 kind description format required items additional properties h1 h2 h3 =>
    rcases kind with _ | kind
    · simp [ofDescriptor]
    cases kind
    case array => exact (h1 rfl).elim
    case object =>
      rcases properties with _ | fields
      · exact (h3 rfl rfl).elim
      · exact (h2 fields rfl rfl).elim
    all_goals simp [ofDescriptor, Outcome.map_error_iff, ofScalar_ne_badNestedName]

end FieldType

namespace Header

theorem activities_error (h : activities s c = .error e) :
    ∃ activity, e = .badActivityName activity := by
  unfold activities at h
  split at h
  · cases h
  rcases Outcome.bind_error_iff.1 h with h | ⟨_, _, h⟩
  · obtain ⟨⟨activity, roles⟩, _, h⟩ := Outcome.mapM_error_iff.1 h
    change activityLine activity roles = _ at h
    unfold activityLine at h
    split at h
    · cases h
      exact ⟨activity, rfl⟩
    · cases h
  · cases h

theorem lines_error_iff {text : String} (h : activities s c = .ok text) :
    lines s c = .error e ↔ underlyingType? s = .error e := by
  rw [lines_eq_map h, Outcome.map_error_iff]

/-- What the documentation cannot tell of a schema is its activities or its underlying type. -/
theorem lines_error (h : lines s c = .error e) :
    activities s c = .error e ∨ underlyingType? s = .error e := by
  cases hactivities : activities s c with
  | error e' =>
    rw [lines, sections, hactivities] at h
    cases h
    exact Or.inl rfl
  | ok text => exact Or.inr ((lines_error_iff hactivities).1 h)

end Header

theorem Field.fault_of_ofSchema {properties : Table Property}
    (hshape : s.shape = .ok (.object properties) ∨ s.shape = .ok (.records properties))
    (h : ofSchema s = .error (.error e)) : s.Fault c e := by
  have hfields := ofSchema_of_shape hshape
  rw [h] at hfields
  have htaken : ∀ name, name ∈ [] ↔ ∃ q ∈ ([] : Table Property), fieldName q.1 = name := by
    simp
  obtain ⟨_, ⟨before, q, _, rfl, hfault, _⟩, heq⟩ :=
    (ofProperties_error_iff htaken).1 hfields.symm
  cases heq
  exact .field hshape (by simp) hfault

namespace Declaration

theorem fault_of_typeName (h : typeName s.id = .error (.error e)) : s.Fault c e := by
  unfold typeName at h
  split at h
  · next hrefused =>
    cases h
    exact .name (by simpa using hrefused)
  · split at h <;> cases h

theorem fault_of_ofSchema (h : ofSchema s = .error (.error e)) : s.Fault c e := by
  cases hname : typeName s.id with
  | error f =>
    rw [ofSchema, hname] at h
    cases h
    exact fault_of_typeName hname
  | ok i =>
  cases hshape : s.shape with
  | error e' =>
    rw [ofSchema, hname, hshape] at h
    cases h
    exact .shape hshape
  | ok shape =>
  cases shape with
  | object properties | records properties =>
    have hfields : s.shape = .ok (.object properties) ∨ s.shape = .ok (.records properties) := by
      simp [hshape]
    rw [ofSchema_of_fields hname hfields] at h
    rcases Outcome.bind_error_iff.1 h with h | ⟨fields, _, h⟩
    · exact Field.fault_of_ofSchema hfields h
    rcases Outcome.bind_error_iff.1 h with h | ⟨_, _, h⟩
    · obtain ⟨field, _, h⟩ := Outcome.mapM_error_iff.1 h
      obtain ⟨_, _, _, h⟩ := FieldType.expr_error_iff.1 (FieldDecl.ofField_error_iff.1 h)
      cases h
    · cases h
  | list items =>
    rw [ofSchema_of_list hshape, hname] at h
    rcases Outcome.bind_error_iff.1 h with h | ⟨_, _, h⟩
    · cases h
    rcases Outcome.bind_error_iff.1 h with h | ⟨type, _, h⟩
    · obtain ⟨e', h, heq⟩ := Outcome.mapError_error_iff.1 h
      cases heq
      exact .elements hshape h
    rcases Outcome.bind_error_iff.1 h with h | ⟨_, _, h⟩
    · obtain ⟨_, _, _, h⟩ := FieldType.expr_error_iff.1 h
      cases h
    · cases h
  | other =>
    rw [ofSchema, hname, hshape] at h
    cases h

end Declaration

namespace TypeUnit

theorem fault_of_ofSchema (h : ofSchema c s = .error (.error e)) : s.Fault c e := by
  cases hname : Declaration.typeName s.id with
  | error f =>
    rw [ofSchema, hname] at h
    cases h
    exact Declaration.fault_of_typeName hname
  | ok i =>
  cases hdoc : Header.lines s c with
  | error e' =>
    rw [ofSchema, hname, hdoc] at h
    cases h
    rcases Header.lines_error hdoc with hactivities | htype
    · exact .activities hactivities
    rcases Declaration.ofSchema_error_of_underlyingType? hname htype with h | ⟨_, hformat, rfl⟩
    · exact Declaration.fault_of_ofSchema h
    · exact .format hformat
  | ok doc => exact Declaration.fault_of_ofSchema ((ofSchema_error_iff_of_doc hname hdoc).1 h)

end TypeUnit

namespace SchemaNode.Fault

/-- Only of its own name a schema is said to have a bad one. -/
theorem refused_of_badTypeName (h : s.Fault c (.code (.badTypeName id))) :
    s.id = id ∧ Ident.accepts s.id = false := by
  have hmapped {schema property : String} {mayBeOptional : Bool} {p : Property} :
      FieldType.ofDescriptor schema property mayBeOptional p ≠ .error (.code (.badTypeName id)) :=
    fun herror => by rcases FieldType.ofDescriptor_error herror with ⟨_, heq⟩ | ⟨_, heq⟩ <;> cases heq
  cases h with
  | name refused => exact ⟨rfl, refused⟩
  | activities error =>
    obtain ⟨_, heq⟩ := Header.activities_error error
    cases heq
  | field _ _ fault =>
    cases fault with
    | unmappable _ _ error => exact absurd error hmapped
  | elements _ error => exact absurd error hmapped

/-- What is said of the name of an anonymous object is said of the schema around it. -/
theorem derives_of_badNestedName
    (h : s.Fault c (.unmappable schema property (.badNestedName name))) :
    s.id = schema ∧ ∃ p node, s.Derives (property, p) node ∧ node.id = name := by
  cases h with
  | activities error =>
    obtain ⟨_, heq⟩ := Header.activities_error error
    cases heq
  | @field _ _ q _ shape_eq mem fault =>
    cases fault with
    | unmappable _ _ error =>
      obtain ⟨rfl, rfl, rfl, _, o, ho⟩ := FieldType.ofDescriptor_badNestedName_iff.1 error
      refine ⟨rfl, q.2, .ofProperty (nestedTypeName s.id q.1) o, ?_, rfl⟩
      rcases shape_eq with shape_eq | shape_eq <;> exact ⟨_, o, shape_eq, mem, ho, rfl⟩
  | @elements items _ shape_eq error =>
    obtain ⟨rfl, rfl, rfl, _, o, ho⟩ := FieldType.ofDescriptor_badNestedName_iff.1 error
    rw [Property.arrayOf, Property.anonymousObject?] at ho
    exact ⟨rfl, items, _, ⟨_, o, shape_eq, List.mem_singleton.2 rfl, ho, rfl⟩, rfl⟩

end SchemaNode.Fault

section refused
variable (h : s.Derives q node) (hrefused : Ident.accepts node.id = false)
include h hrefused

theorem SchemaNode.Derives.ofProperty_error :
    FieldType.ofProperty s.id q.1 q.2 =
      .error (.unmappable s.id q.1 (.badNestedName node.id)) := by
  obtain ⟨_, o, _, _, ho, rfl⟩ := h
  exact FieldType.ofDescriptor_badNestedName_iff.2 ⟨rfl, rfl, rfl, hrefused, o, ho⟩

theorem SchemaNode.Derives.ofProperty_error_of_list {items : Property}
    (hshape : s.shape = .ok (.list items)) :
    FieldType.ofProperty s.id FieldType.listElement (.arrayOf items) =
      .error (.unmappable s.id q.1 (.badNestedName node.id)) := by
  obtain ⟨shape, o, hshape', hq, ho, rfl⟩ := h
  cases hshape.symm.trans hshape'
  cases List.mem_singleton.1 hq
  refine FieldType.ofDescriptor_badNestedName_iff.2 ⟨rfl, rfl, rfl, hrefused, o, ?_⟩
  rwa [Property.arrayOf, Property.anonymousObject?]

/-- A schema around an object without a proper name has no declaration. -/
theorem Declaration.ofSchema_ne_ok_of_derives (decl : Declaration) : ofSchema s ≠ .ok decl := by
  intro hdecl
  have hname := typeName_of_ofSchema hdecl
  have herror := h.ofProperty_error hrefused
  have ⟨shape, _, hshape, hq, _, _⟩ := h
  cases shape with
  | object properties | records properties =>
    have hfields : s.shape = .ok (.object properties) ∨ s.shape = .ok (.records properties) := by
      simp [hshape]
    rw [ofSchema_of_fields hname hfields] at hdecl
    obtain ⟨fields, hresolved, _⟩ := Outcome.bind_ok_iff.1 hdecl
    rw [Field.ofSchema_of_shape hfields] at hresolved
    obtain ⟨hmirrors, _⟩ := Field.ofProperties_ok_iff.1 hresolved
    obtain ⟨field, _, hfield⟩ := Outcome.exists_right_of_forall₂ hmirrors hq
    cases herror.symm.trans hfield.type_eq
  | list items =>
    rw [ofSchema_of_list hshape, hname, h.ofProperty_error_of_list hrefused hshape] at hdecl
    cases hdecl
  | other => cases hq

theorem TypeUnit.refuses_of_derives : Refuses (ofSchema c) s := by
  cases hunit : ofSchema c s with
  | error f => exact ⟨f, hunit⟩
  | ok u =>
    have hdecl := (composes_of_ofSchema hunit).declaration_eq
    exact absurd hdecl (Declaration.ofSchema_ne_ok_of_derives h hrefused _)

theorem TypeUnit.ofSchema_of_derives (hfine : s.IsFineUpTo c q) :
    ofSchema c s = Outcome.fail (.unmappable s.id q.1 (.badNestedName node.id)) := by
  obtain ⟨i, hname⟩ := hfine.name_ok
  obtain ⟨text, htext⟩ := hfine.activities_ok
  refine (ofSchema_error_iff_of_lines fun _ => Header.lines_error_iff htext).2 (Or.inl ?_)
  have herror := h.ofProperty_error hrefused
  have ⟨shape, _, hshape, hq, _, _⟩ := h
  cases shape with
  | object properties | records properties =>
    have hfields : s.shape = .ok (.object properties) ∨ s.shape = .ok (.records properties) := by
      simp [hshape]
    obtain ⟨before, after, fields, rfl, hbefore, haccepted, hfree⟩ := hfine.fields_ok _ hfields
    have htaken : ∀ name, name ∈ (before.map (fieldName ·.1)).reverse ++ [] ↔
        ∃ r ∈ before, fieldName r.1 = name := by
      simp
    have hfield := (Field.ofProperty_error_iff htaken).2
      ⟨_, .unmappable haccepted hfree herror, rfl⟩
    rw [Declaration.ofSchema_of_fields hname hfields, Field.ofSchema_of_shape hfields,
      Field.ofProperties_append, hbefore]
    simp only [Field.ofProperties, hfield]
    rfl
  | list items =>
    rw [Declaration.ofSchema_of_list hshape, hname, h.ofProperty_error_of_list hrefused hshape]
    rfl
  | other => cases hq

end refused

namespace SourceModule
variable {nested before after front : List SchemaNode}

/-- The property `q` of the schema `s`, which stands behind the schemas in `front`, is to blame for
the name of the nested schema `node`. -/
structure IsToBlame (c : Context) (d : Document) (nested front : List SchemaNode) (s : SchemaNode)
    (q : String × Property) (node : SchemaNode) : Prop where
  derives : s.Derives q node
  unmappable : FieldType.ofProperty s.id q.1 q.2 =
    .error (.unmappable s.id q.1 (.badNestedName node.id))
  refused : Refuses (TypeUnit.ofSchema c) s
  /-- It is blamed unless something is wrong before. -/
  blamed (no_clash : nameClash? [] (d.schemas.values ++ nested) = none)
    (first : ∀ b ∈ front, ¬ Refuses (TypeUnit.ofSchema c) b) (fine : s.IsFineUpTo c q) :
    unitsOf c d = Outcome.fail (.unmappable s.id q.1 (.badNestedName node.id))

/-- The schema around a nested one stands before it. -/
theorem exists_derives_before (hnested : nestedSchemas d.schemas.values = .ok nested)
    (hnode : nested = before ++ node :: after) :
    ∃ s ∈ d.schemas.values ++ before, ∃ q, s.Derives q node := by
  obtain ⟨s, hs, shape, hshape, q, hq, o, ho, rfl⟩ := exists_parent_before hnested hnode
  exact ⟨s, hs, q, shape, o, hshape, hq, ho, rfl⟩

theorem exists_isToBlame (hnested : nestedSchemas d.schemas.values = .ok nested)
    (hnode : nested = before ++ node :: after) (hrefused : Ident.accepts node.id = false) :
    ∃ front s back q, d.schemas.values ++ before = front ++ s :: back ∧
      IsToBlame c d nested front s q node := by
  obtain ⟨s, hs, q, hderives⟩ := exists_derives_before hnested hnode
  obtain ⟨front, back, hfront⟩ := List.append_of_mem hs
  have hrefuses : Refuses (TypeUnit.ofSchema c) s := TypeUnit.refuses_of_derives hderives hrefused
  refine ⟨front, s, back, q, hfront, hderives, hderives.ofProperty_error hrefused, hrefuses, ?_⟩
  intro no_clash first fine
  rw [unitsOf_of_no_clash hnested no_clash]
  refine Outcome.mapM_error_iff.2
    ⟨s, ⟨front, back ++ node :: after, ?_, hrefuses, fun left b right hsplit => ?_⟩,
      TypeUnit.ofSchema_of_derives hderives hrefused fine⟩
  · rw [hnode, ← List.append_assoc, hfront]
    simp
  · exact first b (by simp [hsplit])

/-- The first schema without a unit, if its name is refused, is one of the catalog: were it nested,
the schema around it would have no unit either. -/
theorem mem_values_of_isFirst (hnested : nestedSchemas d.schemas.values = .ok nested)
    (hfirst : IsFirst (fun _ => Refuses (TypeUnit.ofSchema c)) (d.schemas.values ++ nested) s)
    (hrefused : Ident.accepts s.id = false) : s ∈ d.schemas.values := by
  obtain ⟨before, after, hsplit, _, hbefore⟩ := hfirst
  by_contra hs
  obtain ⟨front, rfl, hnode⟩ :
      ∃ front, before = d.schemas.values ++ front ∧ nested = front ++ s :: after := by
    rcases List.append_eq_append_iff.1 hsplit with ⟨front, hfront, hnode⟩ | ⟨back, hback, hnode⟩
    · exact ⟨front, hfront, hnode⟩
    · cases back with
      | nil => exact ⟨[], by simpa using hback.symm, by simpa using hnode.symm⟩
      | cons b back =>
        cases hnode
        exact absurd (by simp [hback]) hs
  obtain ⟨parent, hparent, q, hderives⟩ := exists_derives_before hnested hnode
  obtain ⟨left, right, hleft⟩ := List.append_of_mem hparent
  exact hbefore left parent right hleft (TypeUnit.refuses_of_derives hderives hrefused)

theorem badTypeName_of_unitsOf (h : unitsOf c d = Outcome.fail (.code (.badTypeName id))) :
    (∃ s ∈ d.schemas.values, s.id = id) ∧
      ∀ nested, nestedSchemas d.schemas.values = .ok nested → ∀ node ∈ nested, node.id ≠ id := by
  have hdecides := decides_unitsOf c d
  rw [h] at hdecides
  cases hdecides with
  | @failure nested s _ _ nested_eq nodup_ids _ first error =>
    obtain ⟨rfl, hrefused⟩ := (TypeUnit.fault_of_ofSchema error).refused_of_badTypeName
    have hs := mem_values_of_isFirst nested_eq first hrefused
    refine ⟨⟨s, hs, rfl⟩, fun nested' hnested node hnode heq => ?_⟩
    cases nested_eq.symm.trans hnested
    rw [List.map_append] at nodup_ids
    have hdisjoint := List.disjoint_of_nodup_append nodup_ids
    exact hdisjoint (List.mem_map_of_mem hs) (heq ▸ List.mem_map_of_mem hnode)

theorem badNestedName_of_unitsOf
    (h : unitsOf c d = Outcome.fail (.unmappable schema property (.badNestedName name))) :
    ∃ nested, nestedSchemas d.schemas.values = .ok nested ∧
      ∃ s ∈ d.schemas.values ++ nested, ∃ p, ∃ node ∈ nested,
        s.id = schema ∧ s.Derives (property, p) node ∧ node.id = name := by
  have hdecides := decides_unitsOf c d
  rw [h] at hdecides
  cases hdecides with
  | @failure nested s _ _ nested_eq _ _ first error =>
    obtain ⟨rfl, p, node, hderives, rfl⟩ :=
      (TypeUnit.fault_of_ofSchema error).derives_of_badNestedName
    obtain ⟨before, after, hsplit, _⟩ := first
    have hs : s ∈ d.schemas.values ++ nested := by simp [hsplit]
    have ⟨shape, o, hshape, hq, ho, hnode⟩ := hderives
    have hmem := mem_nestedSchemas_of_isChild nested_eq hs hshape ⟨_, hq, o, ho, hnode⟩
    exact ⟨nested, nested_eq, s, hs, p, node, hmem, rfl, hderives, rfl⟩

/-- A name that is refused as that of a schema is one of the catalog, and of no anonymous object. An
error about the name of an anonymous object tells of the schema and the property around it. For each
such name that is refused there is a property to blame, in a schema before the nested one. -/
theorem refused_names_blamed (c : Context) (d : Document) :
    (∀ id, unitsOf c d = Outcome.fail (.code (.badTypeName id)) →
      (∃ s ∈ d.schemas.values, s.id = id) ∧
        ∀ nested, nestedSchemas d.schemas.values = .ok nested → ∀ node ∈ nested, node.id ≠ id) ∧
      (∀ schema property name,
        unitsOf c d = Outcome.fail (.unmappable schema property (.badNestedName name)) →
          ∃ nested, nestedSchemas d.schemas.values = .ok nested ∧
            ∃ s ∈ d.schemas.values ++ nested, ∃ p, ∃ node ∈ nested,
              s.id = schema ∧ s.Derives (property, p) node ∧ node.id = name) ∧
      ∀ nested before node after, nestedSchemas d.schemas.values = .ok nested →
        nested = before ++ node :: after → Ident.accepts node.id = false →
          ∃ front s back q, d.schemas.values ++ before = front ++ s :: back ∧
            IsToBlame c d nested front s q node :=
  ⟨fun _ => badTypeName_of_unitsOf, fun _ _ _ => badNestedName_of_unitsOf,
    fun _ _ _ _ => exists_isToBlame⟩

/-- A schema with objects under a property of two words, of which a field name can be made, but no
type name. -/
def imageSchema : SchemaNode where
  id := "Video"
  kind := some .object
  properties := [("id", .of .string), ("still image", .arrayOf (.ofFields []))]

def imageDocument : Document where
  name := "youtube"
  version := "v3"
  schemas := [("Video", imageSchema)]

theorem isFineUpTo_imageSchema :
    imageSchema.IsFineUpTo {} ("still image", .arrayOf (.ofFields [])) := by
  have hname : (do let _ ← Declaration.typeName imageSchema.id : Outcome Unit) = .ok () := by
    decide +kernel
  have hbefore : (do let _ ← Field.ofProperties "Video" [] [("id", .of .string)] : Outcome Unit) =
      .ok () := by
    decide +kernel
  obtain ⟨i, hname, _⟩ := Outcome.bind_ok_iff.1 hname
  obtain ⟨fields, hfields, _⟩ := Outcome.bind_ok_iff.1 hbefore
  refine ⟨⟨i, hname⟩, ⟨_, rfl⟩, ?_⟩
  rintro _ (⟨⟨⟩⟩ | ⟨⟨⟩⟩)
  exact ⟨[("id", .of .string)], [], fields, rfl, hfields, by decide +kernel, by decide +kernel⟩

theorem refused_names_blamed_image :
    unitsOf {} imageDocument = Outcome.fail
      (.unmappable "Video" "still image" (.badNestedName "VideoStill image")) := by
  obtain ⟨front, s, back, q, hsplit, hblame⟩ := (refused_names_blamed {} imageDocument).2.2
    [.ofProperty "VideoStill image" (.ofFields [])] [] (.ofProperty "VideoStill image" (.ofFields []))
    [] rfl rfl (by decide +kernel)
  obtain ⟨rfl, rfl⟩ : front = [] ∧ s = imageSchema := by
    cases front with
    | nil => exact ⟨rfl, (List.cons.inj hsplit).1.symm⟩
    | cons b front =>
      have hlength := congrArg List.length (List.cons.inj hsplit).2
      simp at hlength
  obtain ⟨shape, o, hshape, hq, ho, _⟩ := hblame.derives
  cases hshape
  obtain rfl | rfl : q = ("id", .of .string) ∨ q = ("still image", .arrayOf (.ofFields [])) := by
    simpa [Shape.mappedProperties, imageSchema] using hq
  · cases ho
  · exact hblame.blamed (by decide +kernel) (by simp) isFineUpTo_imageSchema

end SourceModule

end ApiTypes

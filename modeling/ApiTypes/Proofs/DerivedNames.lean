import ApiTypes.Proofs.DeclaredTypes
import ApiTypes.Proofs.UnitList

/-!
Names that the type mapping derives for anonymous objects. The layers of a mapped type lead to the
descriptor that its core stands for; where that is an anonymous object, the search for nested
schemas ends at the same descriptor and gives its schema the same name.
-/
namespace ApiTypes
open Naming

namespace FieldType

/-- The type inside all options, lists and maps. -/
def core : FieldType → FieldType
  | option t | list t | map t => t.core
  | t => t

/-- The descriptor that the core of a type stands for, when the type is that of `p`. -/
def coreOf? : FieldType → Property → Option Property
  | option t, p => t.coreOf? p
  | list t, p => p.items.bind t.coreOf?
  | map t, p => p.additional.bind t.coreOf?
  | _, p => some p

@[simp] theorem core_named (n : String) : (named n).core = named n := rfl

section wrap
variable (c : Prop) [Decidable c] (t : FieldType) (p : Property)

theorem core_wrap : (if c then option t else t).core = t.core := by
  split <;> rfl

theorem coreOf?_wrap : (if c then option t else t).coreOf? p = t.coreOf? p := by
  split <;> rfl

end wrap

theorem core_ofScalar {schema property : String} {kind : JsonType} {format : Option String}
    {t : FieldType} (h : ofScalar schema property kind format = .ok t) (n : String) :
    t.core ≠ .named n := by
  unfold ofScalar at h
  split at h
  case h_3 | h_4 => split at h <;> cases h <;> simp [core]
  all_goals cases h
  all_goals simp [core]

/-- A mapped type is named after the anonymous object that its descriptor leads to; if it leads to
none, a name at the core of the type is the target of a reference. -/
theorem core_ofDescriptor {schema property : String} {mayBeOptional : Bool} {p : Property}
    {t : FieldType} (h : ofDescriptor schema property mayBeOptional p = .ok t) :
    match p.anonymousObject? with
    | some o => t.core = .named (nestedTypeName schema property) ∧ t.coreOf? p = some o
    | none => ∀ n, t.core = .named n → ∃ o, t.coreOf? p = some o ∧ o.reference = some n := by
  -- The cases are those of the search for the object: the mapping must branch alike in each.
  fun_induction Property.anonymousObject? p generalizing mayBeOptional t with
  | case1 =>
    simp only [ofDescriptor] at h
    split at h
    · cases h
      intro n hn
      rw [core_wrap, core_named, named.injEq] at hn
      exact ⟨_, (coreOf?_wrap ..).trans rfl, by rw [hn]⟩
    · cases h
  | case2 =>
    simp only [ofDescriptor] at h
    split at h
    · cases h
      exact ⟨core_wrap .., coreOf?_wrap ..⟩
    · cases h
  | case3 description format required items value ih =>
    simp only [ofDescriptor] at h
    obtain ⟨v, hv, ht⟩ := Outcome.map_ok_iff.1 h
    subst ht
    simpa [core, coreOf?] using ih hv
  | case4 =>
    simp only [ofDescriptor] at h
    cases h
  | case5 description format required additional properties element ih =>
    simp only [ofDescriptor] at h
    obtain ⟨v, hv, ht⟩ := Outcome.map_ok_iff.1 h
    subst ht
    simpa [core, coreOf?] using ih hv
  | case6 =>
    simp only [ofDescriptor] at h
    cases h
  | case7 kind description format required items additional properties h1 h2 h3 =>
    intro n hn
    rcases kind with _ | kind
    · cases h
    cases kind
    case array => exact (h1 rfl).elim
    case object =>
      rcases properties with _ | fields
      · exact (h3 rfl rfl).elim
      · exact (h2 fields rfl rfl).elim
    all_goals
      simp only [ofDescriptor] at h
      obtain ⟨v, hv, ht⟩ := Outcome.map_ok_iff.1 h
      subst ht
      rw [core_wrap] at hn
      exact absurd hn (core_ofScalar hv n)

end FieldType

/-- A declaration of the given shape maps `p` under `name`. The elements of a list are mapped inside
a list. -/
def Shape.Maps (name : String) (p : Property) : Shape → Prop
  | .object fields | .records fields => (name, p) ∈ fields
  | .list items => name = FieldType.listElement ∧ (p = items ∨ p = .arrayOf items)
  | .other => False

theorem Shape.maps_of_mem_declared {q : String × Property} {shape : Shape}
    (h : q ∈ shape.declared) : shape.Maps q.1 q.2 := by
  cases shape with
  | object fields | records fields => exact h
  | list items =>
    cases List.mem_singleton.1 h
    exact ⟨rfl, Or.inr rfl⟩
  | other => cases h

theorem Shape.maps_of_mem {q : String × Property} {shape : Shape}
    (h : q ∈ shape.mappedProperties) : shape.Maps q.1 q.2 := by
  cases shape with
  | object fields | records fields => exact h
  | list items =>
    cases List.mem_singleton.1 h
    exact ⟨rfl, Or.inl rfl⟩
  | other => cases h

section catalog
variable {catalog nested : List SchemaNode} {s node : SchemaNode} {shape : Shape} {name : String}
  {p o : Property}

theorem Shape.isChild_of_maps (h : shape.Maps name p) (ho : p.anonymousObject? = some o)
    (id : String) :
    IsChild id shape.mappedProperties (.ofProperty (nestedTypeName id name) o) := by
  cases shape with
  | object fields | records fields => exact ⟨(name, p), h, o, ho, rfl⟩
  | list items =>
    obtain ⟨rfl, rfl | rfl⟩ := h
    · exact ⟨_, List.mem_singleton.2 rfl, o, ho, rfl⟩
    · rw [Property.arrayOf, Property.anonymousObject?] at ho
      exact ⟨_, List.mem_singleton.2 rfl, o, ho, rfl⟩
  | other => cases h

/-- The name at the core of a mapped type is a reference, or it names a nested schema that has the
fields of the anonymous object. -/
theorem exists_node_of_core (h : nestedSchemas catalog = .ok nested) (hs : s ∈ catalog ++ nested)
    (hshape : s.shape = .ok shape) (hmaps : shape.Maps name p) {t : FieldType}
    (ht : FieldType.ofProperty s.id name p = .ok t) {n : String} (hn : t.core = .named n) :
    ∃ o, t.coreOf? p = some o ∧
      (o.reference = some n ∨
        o.reference = none ∧ o.isNestedObject = true ∧
          ∃ node ∈ nested, node.id = n ∧ o.properties = some node.properties) := by
  have hcore := FieldType.core_ofDescriptor ht
  cases hobject : p.anonymousObject? with
  | none =>
    rw [hobject] at hcore
    obtain ⟨o, ho, href⟩ := hcore n hn
    exact ⟨o, ho, Or.inl href⟩
  | some o =>
    rw [hobject] at hcore
    obtain ⟨hname, ho⟩ := hcore
    obtain ⟨hkind, href, hproperties⟩ := Property.kind_anonymousObject? hobject
    have hnested : o.isNestedObject = true := by simp [Property.isNestedObject, hkind, hproperties]
    obtain ⟨fields, hfields⟩ := Option.isSome_iff_exists.1 hproperties
    rw [hname, FieldType.named.injEq] at hn
    have hchild := Shape.isChild_of_maps hmaps hobject s.id
    have hmem := mem_nestedSchemas_of_isChild h hs hshape hchild
    exact ⟨o, ho, Or.inr ⟨href, hnested, _, hmem, hn, by simp [SchemaNode.ofProperty, hfields]⟩⟩

theorem exists_maps_of_isChild (h : IsChild s.id shape.mappedProperties node) :
    ∃ name p o, shape.Maps name p ∧ p.anonymousObject? = some o ∧
      node = .ofProperty (nestedTypeName s.id name) o ∧
      ∀ t, FieldType.ofProperty s.id name p = .ok t → t.core = .named node.id := by
  obtain ⟨q, hq, o, ho, rfl⟩ := h
  refine ⟨q.1, q.2, o, Shape.maps_of_mem hq, ho, rfl, fun t ht => ?_⟩
  have hcore := FieldType.core_ofDescriptor ht
  rw [ho] at hcore
  exact hcore.1

/-- Each name that the type mapping derives has a nested schema, and exactly one unit, which is that
of the schema and declares a type of this name. Each nested schema comes from a descriptor that some
declaration maps, and the type of the descriptor, if it has one, is named after the schema. -/
theorem derived_names_declared (h : nestedSchemas catalog = .ok nested) :
    (∀ s ∈ catalog ++ nested, ∃ shape, s.shape = .ok shape ∧
      (∀ decl, Declaration.ofSchema s = .ok decl →
        decl.Writes s.id shape.declared ∧ ∀ q ∈ shape.declared, shape.Maps q.1 q.2) ∧
      ∀ name p, shape.Maps name p → ∀ t, FieldType.ofProperty s.id name p = .ok t →
        ∀ n, t.core = .named n → ∃ o, t.coreOf? p = some o ∧
          (o.reference = some n ∨
            o.reference = none ∧ o.isNestedObject = true ∧ ∃ node ∈ nested, node.id = n ∧
              o.properties = some node.properties ∧
              ∀ c d units, d.schemas.values = catalog → SourceModule.unitsOf c d = .ok units →
                ∃ u, TypeUnit.ofSchema c node = .ok u ∧ u.declaration.name.text = n ∧
                  units.filter (·.typeName.text = n) = [u])) ∧
      ∀ node ∈ nested, ∃ s ∈ catalog ++ nested, ∃ shape, s.shape = .ok shape ∧
        ∃ name p o, shape.Maps name p ∧ p.anonymousObject? = some o ∧
          node = .ofProperty (nestedTypeName s.id name) o ∧
          ∀ t, FieldType.ofProperty s.id name p = .ok t → t.core = .named node.id := by
  constructor
  · intro s hs
    obtain ⟨shape, hshape⟩ := exists_shape h hs
    refine ⟨shape, hshape, fun decl hdecl => ?_, fun name p hmaps t ht n hn => ?_⟩
    · exact ⟨Declaration.writes_of_ofSchema hdecl hshape, fun _ => Shape.maps_of_mem_declared⟩
    obtain ⟨o, ho, href | ⟨href, hobject, node, hnode, rfl, hproperties⟩⟩ :=
      exists_node_of_core h hs hshape hmaps ht hn
    · exact ⟨o, ho, Or.inl href⟩
    · refine ⟨o, ho, Or.inr ⟨href, hobject, node, hnode, rfl, hproperties, ?_⟩⟩
      intro c d units hd hunits
      rw [← hd] at h
      obtain ⟨u, hu, hunique⟩ :=
        SourceModule.exists_unique_unit hunits h (List.mem_append_right _ hnode)
      refine ⟨u, hu, ?_, hunique⟩
      rw [(TypeUnit.composes_of_ofSchema hu).declaration_name, TypeUnit.text_typeName hu]
  · intro node hnode
    obtain ⟨s, hs, shape, hshape, hchild⟩ := exists_parent h hnode
    exact ⟨s, hs, shape, hshape, exists_maps_of_isChild hchild⟩

end catalog

/-- A schema with an array of objects that hold a map of objects. -/
def channelCatalog : List SchemaNode :=
  [{ id := "Channel", kind := some .object,
     properties := [("sections", .arrayOf (.ofFields [("covers", .mapOf (.ofFields []))]))] }]

theorem nestedSchemas_channel :
    nestedSchemas channelCatalog = .ok
      [.ofProperty "ChannelSections" (.ofFields [("covers", .mapOf (.ofFields []))]),
        .ofProperty "ChannelSectionsCovers" (.ofFields [])] := by
  rfl

theorem derived_names_declared_channel :
    ∃ nested, nestedSchemas channelCatalog = .ok nested ∧
      ∃ node ∈ nested, node.id = "ChannelSectionsCovers" ∧ node.properties = [] := by
  refine ⟨_, nestedSchemas_channel, ?_⟩
  obtain ⟨shape, hshape, _, hmaps⟩ := (derived_names_declared nestedSchemas_channel).1
    (.ofProperty "ChannelSections" (.ofFields [("covers", .mapOf (.ofFields []))])) (by simp)
  cases hshape
  have ht : FieldType.ofProperty "ChannelSections" "covers" (.mapOf (.ofFields [])) =
      .ok (.map (.named "ChannelSectionsCovers")) := by decide +kernel
  obtain ⟨o, ho, href | ⟨_, _, node, hnode, hid, hproperties, _⟩⟩ :=
    hmaps "covers" (.mapOf (.ofFields [])) (List.mem_singleton.2 rfl) _ ht _ rfl
  · cases ho
    cases href
  · cases ho
    exact ⟨node, hnode, hid, (Option.some.inj hproperties).symm⟩

end ApiTypes

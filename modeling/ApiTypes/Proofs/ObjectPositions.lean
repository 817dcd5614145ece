import ApiTypes.Proofs.Enumeration
import ApiTypes.Proofs.FirstViolation

/-!
Where the anonymous objects of a catalog are, and in which order the search for nested schemas lists
them. A position is a schema of the catalog and a route down from its declared properties. Every
position of an anonymous object is listed once: schema by schema, before the positions below it, and
before those beside it that come later among the fields.
-/
namespace ApiTypes
open Naming

/-- One step from a descriptor to one inside it. -/
inductive Property.Step where
  /-- To the field that has this place and this name among the fields of an anonymous object. -/
  | field (place : Nat) (name : String)
  /-- To the elements of an array. -/
  | element
  /-- To the values of a map. -/
  | value

/-- A way down from a descriptor. -/
abbrev Property.Route := List Property.Step

namespace Property

/-- The descriptor at the end of a route. Nothing is below a reference. -/
inductive Reaches : Property → Route → Property → Prop
  | here {p : Property} : p.Reaches [] p
  | element {p element q : Property} {route : Route} (no_reference : p.reference = none)
      (kind_eq : p.kind = some .array) (items_eq : p.items = some element)
      (below : element.Reaches route q) : p.Reaches (.element :: route) q
  | value {p value q : Property} {route : Route} (no_reference : p.reference = none)
      (kind_eq : p.kind = some .object) (no_fields : p.properties = none)
      (additional_eq : p.additional = some value) (below : value.Reaches route q) :
      p.Reaches (.value :: route) q
  | field {p f q : Property} {route : Route} {fields : Table Property} {place : Nat} {name : String}
      (no_reference : p.reference = none) (kind_eq : p.kind = some .object)
      (properties_eq : p.properties = some fields) (field_eq : fields[place]? = some (name, f))
      (below : f.Reaches route q) : p.Reaches (.field place name :: route) q

/-- An object with a field list of its own, even an empty one, and not a reference. -/
structure IsAnonymousObject (p : Property) : Prop where
  no_reference : p.reference = none
  kind_eq : p.kind = some .object
  has_fields : ∃ fields, p.properties = some fields

/-- The property that a step goes to; elements and values have no name of their own. -/
def Step.name? : Step → Option String
  | field _ name => some name
  | element | value => none

/-- The name of a schema, followed by the capitalized names of the properties on a route. -/
def Route.typeName (schema : String) (route : Route) : String :=
  schema ++ String.join ((route.filterMap Step.name?).map Text.capitalize)

/-- The order of routes: what is above comes before what is below, and an earlier field with all
that is below it before a later one. -/
inductive Route.Precedes : Route → Route → Prop
  | above (route : Route) (step : Step) (below : Route) : Precedes route (route ++ step :: below)
  | beside (route : Route) {i j : Nat} (lt : i < j) (name name' : String) (left right : Route) :
      Precedes (route ++ .field i name :: left) (route ++ .field j name' :: right)

end Property

open Property

/-- What is at the end of a route from the declared properties of a schema. A list declares its
elements, as if they were its only property. -/
inductive Shape.Reaches : Shape → Route → Property → Prop
  | object {fields : Table Property} {place : Nat} {name : String} {p q : Property} {route : Route}
      (field_eq : fields[place]? = some (name, p)) (below : p.Reaches route q) :
      (Shape.object fields).Reaches (.field place name :: route) q
  | records {fields : Table Property} {place : Nat} {name : String} {p q : Property} {route : Route}
      (field_eq : fields[place]? = some (name, p)) (below : p.Reaches route q) :
      (Shape.records fields).Reaches (.field place name :: route) q
  | list {items q : Property} {route : Route} (below : items.Reaches route q) :
      (Shape.list items).Reaches (.field 0 "items" :: route) q

/-- A place in a catalog: that of a schema, and a route down from its declared properties. -/
structure Position where
  schema : Nat
  route : Route

namespace Position

/-- The schema `s` is at this place of the catalog, and the route leads to the anonymous object
`o`. -/
structure Holds (catalog : List SchemaNode) (position : Position) (s : SchemaNode) (o : Property) :
    Prop where
  schema_eq : catalog[position.schema]? = some s
  reaches : ∃ shape, s.shape = .ok shape ∧ shape.Reaches position.route o
  anonymous : o.IsAnonymousObject

/-- The order of positions: by schema, then by route. -/
inductive Precedes : Position → Position → Prop
  | schema {a b : Position} (lt : a.schema < b.schema) : a.Precedes b
  | route {a b : Position} (schema_eq : a.schema = b.schema) (precedes : a.route.Precedes b.route) :
      a.Precedes b

end Position

namespace Property.Route
variable {a b : Route}

theorem Precedes.cons (h : a.Precedes b) (step : Step) : Precedes (step :: a) (step :: b) := by
  cases h with
  | above route next below => exact .above (step :: a) next below
  | beside route lt name name' left right => exact .beside (step :: route) lt name name' left right

theorem precedes_nil_cons (step : Step) (route : Route) : Precedes [] (step :: route) :=
  .above [] step route

theorem precedes_of_lt {i j : Nat} (lt : i < j) (name name' : String) (left right : Route) :
    Precedes (.field i name :: left) (.field j name' :: right) :=
  .beside [] lt name name' left right

theorem Precedes.ne (h : a.Precedes b) : a ≠ b := by
  cases h with
  | above route step below => simp
  | beside route lt name name' left right =>
    intro heq
    have hstep := List.append_cancel_left heq
    simp only [List.cons.injEq, Step.field.injEq] at hstep
    omega

theorem typeName_nil (schema : String) : typeName schema [] = schema := by
  simp [typeName]

theorem typeName_cons (schema : String) (step : Step) (route : Route) :
    typeName schema (step :: route) =
      typeName ((step.name?.map (nestedTypeName schema)).getD schema) route := by
  cases step <;>
    simp [typeName, List.filterMap_cons, Step.name?, nestedTypeName, String.append_assoc]

end Property.Route

/-- The nodes are the schemas of the anonymous objects below, in the order of the routes to them and
named after the schema `id` and the route. -/
def ListsBelow (Below : Route → Property → Prop) (id : String) (nodes : List SchemaNode) : Prop :=
  ∃ entries : List (Route × SchemaNode), nodes = entries.map Prod.snd ∧
    Enumerates Route.Precedes
      (fun route node => ∃ o, Below route o ∧ o.IsAnonymousObject ∧
        node = .ofProperty (route.typeName id) o) entries

namespace ListsBelow
variable {Below Below' : Route → Property → Prop} {id : String} {nodes : List SchemaNode}
  {p : Property} {fields : Table Property} {shape : Shape}

theorem nil (h : ∀ route o, Below route o → ¬ o.IsAnonymousObject) : ListsBelow Below id [] := by
  refine ⟨[], rfl, .nil ?_⟩
  rintro route _ ⟨o, hbelow, hobject, rfl⟩
  exact h route o hbelow hobject

/-- A step that goes to no property of its own leaves the names as they are. -/
theorem step (h : ListsBelow Below id nodes) (step : Step) (hname : step.name? = none)
    (hbelow : ∀ route o, o.IsAnonymousObject →
      (Below' route o ↔ ∃ rest, route = step :: rest ∧ Below rest o)) :
    ListsBelow Below' id nodes := by
  obtain ⟨entries, hnodes, hentries⟩ := h
  have hmapped := hentries.map fun _ _ hab => Route.Precedes.cons hab step
  refine ⟨_, by simp [hnodes, Function.comp_def], hmapped.congr fun route node => ?_⟩
  constructor
  · rintro ⟨rest, rfl, o, ho, hobject, rfl⟩
    refine ⟨o, (hbelow _ o hobject).2 ⟨rest, rfl, ho⟩, hobject, ?_⟩
    rw [Route.typeName_cons, hname]
    rfl
  · rintro ⟨o, ho, hobject, rfl⟩
    obtain ⟨rest, rfl, hrest⟩ := (hbelow route o hobject).1 ho
    refine ⟨rest, rfl, o, hrest, hobject, ?_⟩
    rw [Route.typeName_cons, hname]
    rfl

/-- The schema of an anonymous object comes before those of the objects among its fields. -/
theorem object (hp : p.IsAnonymousObject) (hfields : p.properties = some fields)
    (h : ListsBelow (Shape.object fields).Reaches id nodes) :
    ListsBelow p.Reaches id (.ofProperty id p :: nodes) := by
  obtain ⟨entries, hnodes, hentries⟩ := h
  have hfirst : Enumerates Route.Precedes _ [([], SchemaNode.ofProperty id p)] :=
    Enumerates.singleton ..
  refine ⟨_, ?_, (hfirst.append hentries ?_).congr fun route node => ?_⟩
  · simp [hnodes]
  · rintro _ _ _ _ ⟨rfl, rfl⟩ ⟨o, ⟨_, _⟩, _, _⟩
    exact Route.precedes_nil_cons ..
  · constructor
    · rintro (⟨rfl, rfl⟩ | ⟨o, hbelow, hobject, rfl⟩)
      · exact ⟨p, .here, hp, by rw [Route.typeName_nil]⟩
      · cases hbelow with
        | object hfield hbelow =>
          exact ⟨o, .field hp.no_reference hp.kind_eq hfields hfield hbelow, hobject, rfl⟩
    · rintro ⟨o, hreaches, hobject, rfl⟩
      cases hreaches with
      | here => exact Or.inl ⟨rfl, by rw [Route.typeName_nil]⟩
      | element no_reference kind_eq =>
        rw [hp.kind_eq] at kind_eq
        cases kind_eq
      | value no_reference kind_eq no_fields =>
        rw [no_fields] at hfields
        cases hfields
      | field no_reference kind_eq properties_eq field_eq below =>
        rw [hfields, Option.some.injEq] at properties_eq
        subst properties_eq
        exact Or.inr ⟨o, .object field_eq below, hobject, rfl⟩

end ListsBelow

namespace Property
variable {p o : Property} {route : Route}

theorem anonymousObject?_of_isAnonymousObject (h : p.IsAnonymousObject) :
    p.anonymousObject? = some p := by
  obtain ⟨no_reference, kind_eq, fields, properties_eq⟩ := h
  cases p
  cases no_reference
  cases kind_eq
  cases properties_eq
  rw [anonymousObject?]

/-- A descriptor with an anonymous object below it is seen to have one. -/
theorem Reaches.isSome_anonymousObject? (h : p.Reaches route o) (ho : o.IsAnonymousObject) :
    p.anonymousObject?.isSome = true := by
  induction h with
  | here => simp [anonymousObject?_of_isAnonymousObject ho]
  | @element p element _ _ no_reference kind_eq items_eq _ ih =>
    cases p
    cases no_reference
    cases kind_eq
    cases items_eq
    simpa [anonymousObject?] using ih ho
  | @value p value _ _ no_reference kind_eq no_fields additional_eq _ ih =>
    cases p
    cases no_reference
    cases kind_eq
    cases no_fields
    cases additional_eq
    simpa [anonymousObject?] using ih ho
  | @field p _ _ _ _ _ _ no_reference kind_eq properties_eq =>
    have hp : p.IsAnonymousObject := ⟨no_reference, kind_eq, _, properties_eq⟩
    simp [anonymousObject?_of_isAnonymousObject hp]

theorem listsBelow_of_anonymousObject?_eq_none {id : String} (h : p.anonymousObject? = none) :
    ListsBelow p.Reaches id (p.nestedSchemas id) := by
  rw [nestedSchemas_eq, h]
  refine .nil fun route o hreaches ho => ?_
  simpa [h] using hreaches.isSome_anonymousObject? ho

/-- The search in a descriptor lists the anonymous objects below it, if the search among the fields
of its own object does. -/
theorem listsBelow_nestedSchemas {id : String}
    (hfields : ∀ o, p.anonymousObject? = some o →
      ListsBelow (Shape.object (o.properties.getD [])).Reaches id
        (nestedSchemasOfFields id (o.properties.getD []))) :
    ListsBelow p.Reaches id (p.nestedSchemas id) := by
  fun_induction anonymousObject? p with
  | case2 => exact .object ⟨rfl, rfl, _, rfl⟩ rfl (hfields _ rfl)
  | case3 description format required items value ih =>
    refine (ih hfields).step .value rfl fun route o hobject => ⟨fun hreaches => ?_, ?_⟩
    · cases hreaches with
      | here =>
        obtain ⟨_, properties_eq⟩ := hobject.has_fields
        cases properties_eq
      | element _ kind_eq => cases kind_eq
      | field _ _ properties_eq => cases properties_eq
      | value _ _ _ additional_eq below =>
        cases additional_eq
        exact ⟨_, rfl, below⟩
    · rintro ⟨rest, rfl, below⟩
      exact .value rfl rfl rfl rfl below
  | case5 description format required additional properties element ih =>
    refine (ih hfields).step .element rfl fun route o hobject => ⟨fun hreaches => ?_, ?_⟩
    · cases hreaches with
      | here => cases hobject.kind_eq
      | value _ kind_eq | field _ kind_eq => cases kind_eq
      | element _ _ items_eq below =>
        cases items_eq
        exact ⟨_, rfl, below⟩
    · rintro ⟨rest, rfl, below⟩
      exact .element rfl rfl rfl below
  | case1 | case4 | case6 =>
    apply listsBelow_of_anonymousObject?_eq_none
    rw [anonymousObject?]
  | case7 =>
    apply listsBelow_of_anonymousObject?_eq_none
    unfold anonymousObject?
    split <;> simp_all

end Property

/-- The search among the fields of an object lists the anonymous objects below them. -/
theorem listsBelow_nestedSchemasOfFields (id : String) (fields : Table Property) :
    ListsBelow (Shape.object fields).Reaches id (nestedSchemasOfFields id fields) := by
  induction fields using fields_induction generalizing id with
  | step fields ih =>
    have hlists : List.Forall₂ (fun q nodes => ListsBelow q.2.Reaches (nestedTypeName id q.1) nodes)
        fields (fields.map fun q => q.2.nestedSchemas (nestedTypeName id q.1)) := by
      rw [List.forall₂_map_right_iff, List.forall₂_same]
      exact fun q hq => Property.listsBelow_nestedSchemas fun o ho => ih q hq o ho _
    rw [nestedSchemasOfFields_eq_flatMap, List.flatMap_def]
    obtain ⟨entries, hnodes, hentries⟩ := Enumerates.exists_flatten Route.Precedes
      (fun i (q : String × Property) route => .field i q.1 :: route)
      (fun i q _ _ h => Route.Precedes.cons h (.field i q.1))
      (fun _ _ q r left right h => Route.precedes_of_lt h q.1 r.1 left right) hlists 0
    refine ⟨entries, hnodes, hentries.congr fun route node => ⟨?_, ?_⟩⟩
    · rintro ⟨i, q, rest, hq, rfl, o, hreaches, hobject, rfl⟩
      rw [Nat.zero_add]
      exact ⟨o, .object hq hreaches, hobject, by rw [Route.typeName_cons]; rfl⟩
    · rintro ⟨o, hreaches, hobject, rfl⟩
      cases hreaches with
      | @object _ place name p _ rest field_eq below =>
        rw [Route.typeName_cons]
        exact ⟨place, (name, p), rest, field_eq, by rw [Nat.zero_add], o, below, hobject, rfl⟩

theorem Shape.reaches_object_mappedProperties {shape : Shape} {route : Route} {o : Property} :
    (Shape.object shape.mappedProperties).Reaches route o ↔ shape.Reaches route o := by
  constructor
  · intro h
    cases h with
    | @object _ place _ _ _ _ field_eq below =>
      cases shape with
      | object fields => exact .object field_eq below
      | records fields => exact .records field_eq below
      | list items =>
        cases place with
        | zero =>
          cases field_eq
          exact .list below
        | succ place => cases field_eq
      | other => cases field_eq
  · intro h
    cases h with
    | object field_eq below | records field_eq below => exact .object field_eq below
    | list below => exact .object rfl below

/-- The search in a schema lists the anonymous objects below its declared properties. -/
theorem SchemaNode.listsBelow_nestedSchemas {s : SchemaNode} {nodes : List SchemaNode}
    (h : s.nestedSchemas = .ok nodes) :
    ListsBelow (fun route o => ∃ shape, s.shape = .ok shape ∧ shape.Reaches route o) s.id
      nodes := by
  obtain ⟨shape, hshape, rfl⟩ := nestedSchemas_ok_iff.1 h
  have hreaches : (fun route o => ∃ shape, s.shape = .ok shape ∧ shape.Reaches route o) =
      (Shape.object shape.mappedProperties).Reaches := by
    funext route o
    simp [hshape, Shape.reaches_object_mappedProperties]
  rw [hreaches]
  exact listsBelow_nestedSchemasOfFields s.id shape.mappedProperties

namespace Position
variable {a b : Position}

theorem Precedes.ne (h : a.Precedes b) : a ≠ b := by
  rintro rfl
  cases h with
  | schema lt => exact Nat.lt_irrefl _ lt
  | route _ precedes => exact precedes.ne rfl

end Position

/-- The search in a catalog lists the anonymous objects at its positions. -/
theorem exists_positions {catalog nested : List SchemaNode}
    (h : nestedSchemas catalog = .ok nested) :
    ∃ entries : List (Position × SchemaNode), nested = entries.map Prod.snd ∧
      Enumerates Position.Precedes
        (fun position node => ∃ s o, position.Holds catalog s o ∧
          node = .ofProperty (position.route.typeName s.id) o) entries := by
  obtain ⟨lists, hlists, hnested⟩ := Outcome.bind_ok_iff.1 h
  cases hnested
  have hall := (Outcome.mapM_ok_iff.1 hlists).imp fun _ _ => SchemaNode.listsBelow_nestedSchemas
  obtain ⟨entries, hnodes, hentries⟩ := Enumerates.exists_flatten Position.Precedes
    (fun i _ route => ⟨i, route⟩) (fun _ _ _ _ h => .route rfl h)
    (fun _ _ _ _ _ _ h => .schema h) hall 0
  refine ⟨entries, hnodes, hentries.congr fun position node => ⟨?_, ?_⟩⟩
  · rintro ⟨i, s, route, hs, rfl, o, hreaches, hobject, rfl⟩
    rw [Nat.zero_add]
    exact ⟨s, o, ⟨hs, hreaches, hobject⟩, rfl⟩
  · rintro ⟨s, o, ⟨hs, hreaches, hobject⟩, rfl⟩
    exact ⟨position.schema, s, position.route, hs, by rw [Nat.zero_add], o, hreaches, hobject, rfl⟩

/-- The schema declares an anonymous object under the name `id`, with the fields of the object. -/
structure SchemaNode.DeclaresObject (node : SchemaNode) (id : String) (o : Property) : Prop where
  id_eq : node.id = id
  nested_eq : node.nested = true
  shape_eq : node.shape = .ok (.object node.properties)
  properties_eq : o.properties = some node.properties

theorem SchemaNode.declaresObject_ofProperty {o : Property} (ho : o.IsAnonymousObject)
    (id : String) : (ofProperty id o).DeclaresObject id o := by
  obtain ⟨_, hkind, fields, hfields⟩ := ho
  exact ⟨rfl, rfl, by simp [shape, ofProperty, hkind], by simp [ofProperty, hfields]⟩

/-- The list has one schema for each position of an anonymous object in the catalog, in the order of
positions. -/
structure InPreorder (catalog nested : List SchemaNode) (entries : List (Position × SchemaNode)) :
    Prop where
  nodes_eq : nested = entries.map Prod.snd
  nodup : (entries.map Prod.fst).Nodup
  ordered : (entries.map Prod.fst).Pairwise Position.Precedes
  mem_iff : ∀ position, position ∈ entries.map Prod.fst ↔ ∃ s o, position.Holds catalog s o
  declares : ∀ entry ∈ entries, ∃ s o, entry.1.Holds catalog s o ∧
    entry.2.DeclaresObject (entry.1.route.typeName s.id) o

theorem exists_inPreorder {catalog nested : List SchemaNode}
    (h : nestedSchemas catalog = .ok nested) : ∃ entries, InPreorder catalog nested entries := by
  obtain ⟨entries, hnodes, hentries⟩ := exists_positions h
  have hordered := List.pairwise_map.2 hentries.ordered
  refine ⟨entries, hnodes, hordered.imp Position.Precedes.ne, hordered, fun position => ?_, ?_⟩
  · rw [List.mem_map]
    constructor
    · rintro ⟨⟨position, node⟩, hmem, rfl⟩
      obtain ⟨s, o, hholds, _⟩ := (hentries.mem_iff position node).1 hmem
      exact ⟨s, o, hholds⟩
    · rintro ⟨s, o, hholds⟩
      exact ⟨(position, _), (hentries.mem_iff position _).2 ⟨s, o, hholds, rfl⟩, rfl⟩
  · rintro ⟨position, node⟩ hmem
    obtain ⟨s, o, hholds, rfl⟩ := (hentries.mem_iff position node).1 hmem
    exact ⟨s, o, hholds, SchemaNode.declaresObject_ofProperty hholds.anonymous _⟩

/-- The search for nested schemas fails when a schema of the catalog has no shape, with the error of
the first one, and never in a schema that it makes. Else it finds the anonymous objects of the
catalog in preorder. -/
theorem nestedSchemas_in_preorder (catalog : List SchemaNode) :
    ((∃ e, nestedSchemas catalog = .error e) ↔ ∃ s ∈ catalog, Refuses SchemaNode.shape s) ∧
      (∀ e, nestedSchemas catalog = .error e ↔
        ∃ s, IsFirst (fun _ => Refuses SchemaNode.shape) catalog s ∧ s.shape = .error e) ∧
      (∀ id o, o.IsAnonymousObject →
        ∃ nodes, (SchemaNode.ofProperty id o).nestedSchemas = .ok nodes) ∧
      ∀ nested, nestedSchemas catalog = .ok nested →
        ∃ entries, InPreorder catalog nested entries := by
  refine ⟨⟨?_, ?_⟩, fun e => SourceModule.nestedSchemas_error_iff, fun id o ho => ?_,
    fun nested h => exists_inPreorder h⟩
  · rintro ⟨e, he⟩
    obtain ⟨s, ⟨before, after, rfl, hrefuses, _⟩, _⟩ := SourceModule.nestedSchemas_error_iff.1 he
    exact ⟨s, by simp, hrefuses⟩
  · rintro ⟨s, hs, e, he⟩
    cases h : nestedSchemas catalog with
    | error e' => exact ⟨e', rfl⟩
    | ok nested =>
      obtain ⟨shape, hshape⟩ := exists_shape_of_mem h hs
      rw [he] at hshape
      cases hshape
  · have hnode := SchemaNode.declaresObject_ofProperty ho id
    exact ⟨_, nestedSchemas_ok_iff.2 ⟨_, hnode.shape_eq, rfl⟩⟩

/-- A schema with an object inside an object and another one beside it, and a list of maps of
objects that hold an array of objects. -/
def placesCatalog : List SchemaNode :=
  [{ id := "Channel", kind := some .object,
     properties := [("branding", .ofFields [("image", .ofFields [("url", .of .string)])]),
       ("stats", .ofFields [("views", .of .integer)])] },
    { id := "Places", kind := some .array,
      items := some (.mapOf (.ofFields [("geo", .arrayOf (.ofFields []))])) }]

theorem nestedSchemas_in_preorder_places :
    ∃ nested entries, nestedSchemas placesCatalog = .ok nested ∧
      InPreorder placesCatalog nested entries ∧
      nested.map SchemaNode.id =
        ["ChannelBranding", "ChannelBrandingImage", "ChannelStats", "PlacesItems",
          "PlacesItemsGeo"] := by
  have hrun : (nestedSchemas placesCatalog).toOption.map (List.map SchemaNode.id) =
      some ["ChannelBranding", "ChannelBrandingImage", "ChannelStats", "PlacesItems",
        "PlacesItemsGeo"] := by
    decide +kernel
  obtain ⟨nested, hnested, hids⟩ := Option.map_eq_some_iff.1 hrun
  cases h : nestedSchemas placesCatalog with
  | error e =>
    rw [h] at hnested
    cases hnested
  | ok found =>
    rw [h] at hnested
    cases hnested
    obtain ⟨entries, hentries⟩ := (nestedSchemas_in_preorder placesCatalog).2.2.2 _ h
    exact ⟨_, entries, rfl, hentries, hids⟩

end ApiTypes

import ApiTypes.Code.Nested
import ApiTypes.Proofs.Outcome

/-!
The schemas of anonymous objects. Each of them is the child of a schema: of one in the catalog, or
of another that is an anonymous object itself; and no child of either is left out.
-/
namespace ApiTypes
open Naming

/-- `node` is the schema of an anonymous object among the fields of the schema called `id`. -/
def IsChild (id : String) (fields : Table Property) (node : SchemaNode) : Prop :=
  ∃ q ∈ fields, ∃ o, q.2.anonymousObject? = some o ∧ node = .ofProperty (nestedTypeName id q.1) o

namespace Property
variable {p o : Property}

theorem kind_anonymousObject? (h : p.anonymousObject? = some o) :
    o.kind = some .object ∧ o.reference = none ∧ o.properties.isSome := by
  fun_induction anonymousObject? p with
  | case2 => cases h; simp
  | case3 _ _ _ _ _ ih => exact ih h
  | case5 _ _ _ _ _ _ ih => exact ih h
  | _ => cases h

theorem sizeOf_anonymousObject? (h : p.anonymousObject? = some o) :
    sizeOf (o.properties.getD []) < sizeOf p := by
  fun_induction anonymousObject? p with
  | case2 =>
    cases h
    simp only [Option.getD_some, Property.mk.sizeOf_spec, Option.some.sizeOf_spec]
    omega
  | case3 _ _ _ _ _ ih =>
    have := ih h
    simp only [Property.mk.sizeOf_spec, Option.some.sizeOf_spec]
    omega
  | case5 _ _ _ _ _ _ ih =>
    have := ih h
    simp only [Property.mk.sizeOf_spec, Option.some.sizeOf_spec]
    omega
  | _ => cases h

end Property

/-- Induction over field lists: what holds of the fields of all anonymous objects in a list holds of
the list. -/
theorem fields_induction {P : Table Property → Prop}
    (step : ∀ fields, (∀ q ∈ fields, ∀ o, q.2.anonymousObject? = some o →
      P (o.properties.getD [])) → P fields) (fields : Table Property) : P fields := by
  apply step
  intro q hq o ho
  have hobject := Property.sizeOf_anonymousObject? ho
  have hfields := List.sizeOf_lt_of_mem hq
  have hpair : sizeOf q.2 < sizeOf q := by
    obtain ⟨name, p⟩ := q
    simp only [Prod.mk.sizeOf_spec]
    omega
  exact fields_induction step (o.properties.getD [])
termination_by sizeOf fields

variable {id : String} {fields : Table Property} {node : SchemaNode}

theorem mem_nestedSchemasOfFields_iff :
    node ∈ nestedSchemasOfFields id fields ↔
      ∃ q ∈ fields, ∃ o, q.2.anonymousObject? = some o ∧
        (node = .ofProperty (nestedTypeName id q.1) o ∨
          node ∈ nestedSchemasOfFields (nestedTypeName id q.1) (o.properties.getD [])) := by
  induction fields with
  | nil => simp [nestedSchemasOfFields]
  | cons q rest ih =>
    obtain ⟨name, p⟩ := q
    simp only [nestedSchemasOfFields, List.mem_append, ih, List.exists_mem_cons_iff,
      Property.nestedSchemas_eq]
    apply or_congr_left
    cases p.anonymousObject? <;> simp

theorem mem_of_isChild (h : IsChild id fields node) : node ∈ nestedSchemasOfFields id fields := by
  obtain ⟨q, hq, o, ho, hnode⟩ := h
  exact mem_nestedSchemasOfFields_iff.2 ⟨q, hq, o, ho, Or.inl hnode⟩

/-- The children of a schema in the list are in the list. -/
theorem mem_of_isChild_of_mem {child : SchemaNode} (hnode : node ∈ nestedSchemasOfFields id fields)
    (h : IsChild node.id node.properties child) : child ∈ nestedSchemasOfFields id fields := by
  induction fields using fields_induction generalizing id with
  | step fields ih =>
    obtain ⟨q, hq, o, ho, hnode⟩ := mem_nestedSchemasOfFields_iff.1 hnode
    refine mem_nestedSchemasOfFields_iff.2 ⟨q, hq, o, ho, Or.inr ?_⟩
    rcases hnode with rfl | hnode
    · exact mem_of_isChild h
    · exact ih q hq o ho hnode

/-- Each schema in the list has its parent before it, unless it is one of the topmost. -/
def ParentsFirst (IsTop : SchemaNode → Prop) (nodes : List SchemaNode) : Prop :=
  ∀ before node after, nodes = before ++ node :: after →
    IsTop node ∨ ∃ parent ∈ before, IsChild parent.id parent.properties node

namespace ParentsFirst
variable {IsTop IsTop' : SchemaNode → Prop} {nodes rest : List SchemaNode}
  {lists : List (List SchemaNode)}

theorem nil : ParentsFirst IsTop [] := by
  intro before node after hnodes
  simp at hnodes

theorem mono (h : ParentsFirst IsTop nodes) (htop : ∀ node, IsTop node → IsTop' node) :
    ParentsFirst IsTop' nodes := fun before node after hnodes =>
  (h before node after hnodes).imp_left (htop node)

/-- A schema with its children below it. -/
theorem cons (h : ParentsFirst (IsChild node.id node.properties) rest) (hnode : IsTop node) :
    ParentsFirst IsTop (node :: rest) := by
  intro before child after hnodes
  rcases List.cons_eq_append_iff.1 hnodes with ⟨rfl, hhead⟩ | ⟨front, rfl, hrest⟩
  · cases hhead
    exact Or.inl hnode
  · right
    rcases h front child after hrest with hchild | ⟨parent, hparent, hchild⟩
    · exact ⟨node, List.mem_cons_self, hchild⟩
    · exact ⟨parent, List.mem_cons_of_mem _ hparent, hchild⟩

theorem append (h : ParentsFirst IsTop nodes) (hrest : ParentsFirst IsTop rest) :
    ParentsFirst IsTop (nodes ++ rest) := by
  intro before node after hnodes
  rcases List.append_eq_append_iff.1 hnodes with ⟨front, rfl, hnode⟩ | ⟨back, rfl, hnode⟩
  · rcases hrest front node after hnode with htop | ⟨parent, hparent, hchild⟩
    · exact Or.inl htop
    · exact Or.inr ⟨parent, List.mem_append_right _ hparent, hchild⟩
  · rcases List.cons_eq_append_iff.1 hnode with ⟨rfl, hhead⟩ | ⟨back, rfl, _⟩
    · rcases hrest [] node after hhead with htop | ⟨_, hparent, _⟩
      · exact Or.inl htop
      · cases hparent
    · exact h before node back rfl

theorem flatten (h : ∀ nodes ∈ lists, ParentsFirst IsTop nodes) :
    ParentsFirst IsTop lists.flatten := by
  induction lists with
  | nil => exact nil
  | cons nodes lists ih =>
    obtain ⟨hnodes, hlists⟩ := List.forall_mem_cons.1 h
    rw [List.flatten_cons]
    exact hnodes.append (ih hlists)

end ParentsFirst

theorem nestedSchemasOfFields_eq_flatMap (id : String) (fields : Table Property) :
    nestedSchemasOfFields id fields =
      fields.flatMap fun q => q.2.nestedSchemas (nestedTypeName id q.1) := by
  induction fields with
  | nil => rfl
  | cons q rest ih => rw [nestedSchemasOfFields, List.flatMap_cons, ih]

theorem parentsFirst_nestedSchemasOfFields :
    ParentsFirst (IsChild id fields) (nestedSchemasOfFields id fields) := by
  induction fields using fields_induction generalizing id with
  | step fields ih =>
    rw [nestedSchemasOfFields_eq_flatMap, List.flatMap_def]
    refine .flatten (List.forall_mem_map.2 fun q hq => ?_)
    rw [Property.nestedSchemas_eq]
    cases ho : q.2.anonymousObject? with
    | none => exact .nil
    | some o => exact (ih q hq o ho).cons ⟨q, hq, o, ho, rfl⟩

/-- Each schema in the list is a child of the given fields, or of another schema in the list. -/
theorem isChild_of_mem (h : node ∈ nestedSchemasOfFields id fields) :
    IsChild id fields node ∨
      ∃ parent ∈ nestedSchemasOfFields id fields, IsChild parent.id parent.properties node := by
  obtain ⟨before, after, hnodes⟩ := List.append_of_mem h
  refine (parentsFirst_nestedSchemasOfFields before node after hnodes).imp_right ?_
  rintro ⟨parent, hparent, hchild⟩
  exact ⟨parent, by simp [hnodes, hparent], hchild⟩

/-- The schema of an anonymous object is an object with the fields of that object. -/
theorem IsChild.shape_eq (h : IsChild id fields node) :
    node.shape = .ok (.object node.properties) := by
  obtain ⟨q, _, o, ho, rfl⟩ := h
  simp [SchemaNode.shape, SchemaNode.ofProperty, (Property.kind_anonymousObject? ho).1]

theorem shape_of_mem (h : node ∈ nestedSchemasOfFields id fields) :
    node.shape = .ok (.object node.properties) := by
  rcases isChild_of_mem h with hchild | ⟨_, _, hchild⟩ <;> exact hchild.shape_eq

section catalog
variable {catalog nested : List SchemaNode} {s : SchemaNode} {shape : Shape}

theorem nestedSchemas_ok_iff :
    s.nestedSchemas = .ok nested ↔
      ∃ shape, s.shape = .ok shape ∧
        nestedSchemasOfFields s.id shape.mappedProperties = nested := by
  simp [SchemaNode.nestedSchemas, Outcome.bind_ok_iff, pure, Except.pure]

theorem exists_shape_of_mem (h : nestedSchemas catalog = .ok nested) (hs : s ∈ catalog) :
    ∃ shape, s.shape = .ok shape := by
  obtain ⟨lists, hlists, _⟩ := Outcome.bind_ok_iff.1 h
  obtain ⟨list, hlist⟩ := Outcome.exists_right_of_forall₂ (Outcome.mapM_ok_iff.1 hlists) hs
  obtain ⟨shape, hshape, _⟩ := nestedSchemas_ok_iff.1 hlist.2
  exact ⟨shape, hshape⟩

theorem mem_nestedSchemas_iff (h : nestedSchemas catalog = .ok nested) :
    node ∈ nested ↔ ∃ s ∈ catalog, ∃ shape, s.shape = .ok shape ∧
      node ∈ nestedSchemasOfFields s.id shape.mappedProperties := by
  obtain ⟨lists, hlists, hnested⟩ := Outcome.bind_ok_iff.1 h
  cases hnested
  have hall := Outcome.mapM_ok_iff.1 hlists
  rw [List.mem_flatten]
  constructor
  · rintro ⟨list, hlist, hnode⟩
    obtain ⟨s, hs, hslist⟩ := Outcome.exists_of_forall₂ hall hlist
    obtain ⟨shape, hshape, rfl⟩ := nestedSchemas_ok_iff.1 hslist
    exact ⟨s, hs, shape, hshape, hnode⟩
  · rintro ⟨s, hs, shape, hshape, hnode⟩
    obtain ⟨list, hlist, hslist⟩ := Outcome.exists_right_of_forall₂ hall hs
    rw [nestedSchemas_ok_iff.2 ⟨shape, hshape, rfl⟩] at hslist
    cases hslist
    exact ⟨_, hlist, hnode⟩

/-- The schemas of a catalog and of its anonymous objects have all their children among the
latter. -/
theorem mem_nestedSchemas_of_isChild (h : nestedSchemas catalog = .ok nested)
    (hs : s ∈ catalog ++ nested) (hshape : s.shape = .ok shape)
    (hchild : IsChild s.id shape.mappedProperties node) : node ∈ nested := by
  rw [mem_nestedSchemas_iff h]
  rcases List.mem_append.1 hs with hs | hs
  · exact ⟨s, hs, shape, hshape, mem_of_isChild hchild⟩
  · obtain ⟨root, hroot, rootShape, hrootShape, hmem⟩ := (mem_nestedSchemas_iff h).1 hs
    rw [shape_of_mem hmem] at hshape
    cases hshape
    exact ⟨root, hroot, rootShape, hrootShape, mem_of_isChild_of_mem hmem hchild⟩

theorem exists_shape (h : nestedSchemas catalog = .ok nested) (hs : s ∈ catalog ++ nested) :
    ∃ shape, s.shape = .ok shape := by
  rcases List.mem_append.1 hs with hs | hs
  · exact exists_shape_of_mem h hs
  · obtain ⟨_, _, _, _, hmem⟩ := (mem_nestedSchemas_iff h).1 hs
    exact ⟨_, shape_of_mem hmem⟩

/-- The schema of each anonymous object is the child of a schema in the catalog, or of one before
it. -/
theorem exists_parent_before {before after : List SchemaNode} (h : nestedSchemas catalog = .ok nested)
    (hnode : nested = before ++ node :: after) :
    ∃ s ∈ catalog ++ before, ∃ shape, s.shape = .ok shape ∧
      IsChild s.id shape.mappedProperties node := by
  obtain ⟨lists, hlists, hflatten⟩ := Outcome.bind_ok_iff.1 h
  cases hflatten
  have hfirst : ParentsFirst (fun node => ∃ s ∈ catalog, ∃ shape, s.shape = .ok shape ∧
      IsChild s.id shape.mappedProperties node) lists.flatten := by
    refine .flatten fun list hlist => ?_
    obtain ⟨s, hs, hslist⟩ := Outcome.exists_of_forall₂ (Outcome.mapM_ok_iff.1 hlists) hlist
    obtain ⟨shape, hshape, rfl⟩ := nestedSchemas_ok_iff.1 hslist
    exact parentsFirst_nestedSchemasOfFields.mono fun child hchild => ⟨s, hs, shape, hshape, hchild⟩
  rcases hfirst before node after hnode with ⟨s, hs, hchild⟩ | ⟨parent, hparent, hchild⟩
  · exact ⟨s, List.mem_append_left _ hs, hchild⟩
  · have hmem : parent ∈ lists.flatten := by simp [hnode, hparent]
    obtain ⟨_, _, _, _, hbelow⟩ := (mem_nestedSchemas_iff h).1 hmem
    exact ⟨parent, List.mem_append_right _ hparent, _, shape_of_mem hbelow, hchild⟩

/-- The schema of each anonymous object is the child of some schema. -/
theorem exists_parent (h : nestedSchemas catalog = .ok nested) (hnode : node ∈ nested) :
    ∃ s ∈ catalog ++ nested, ∃ shape, s.shape = .ok shape ∧
      IsChild s.id shape.mappedProperties node := by
  obtain ⟨before, after, rfl⟩ := List.append_of_mem hnode
  obtain ⟨s, hs, hchild⟩ := exists_parent_before h rfl
  refine ⟨s, ?_, hchild⟩
  rw [← List.append_assoc]
  exact List.mem_append_left _ hs

end catalog

end ApiTypes

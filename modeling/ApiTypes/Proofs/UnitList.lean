import ApiTypes.Code.SourceModule
import ApiTypes.Proofs.NestedTypes
import Mathlib.Data.List.Nodup

/-! The units of a document: one for each schema, under its name, and no name twice. -/
namespace ApiTypes
variable {c : Context} {d : Document} {s : SchemaNode} {u : TypeUnit} {units : List TypeUnit}
  {schemas nested : List SchemaNode} {seen : List String}

theorem Declaration.typeName_ok_iff {id : String} {i : Ident} :
    typeName id = .ok i ↔ Ident.accepts id = true ∧ Ident.ofText? id = some i := by
  unfold typeName
  cases Ident.accepts id <;> cases Ident.ofText? id <;> simp [Outcome.fail]

theorem Declaration.typeName_of_ofSchema {decl : Declaration} (h : ofSchema s = .ok decl) :
    typeName s.id = .ok decl.name := by
  obtain ⟨name, hname, h⟩ := Outcome.bind_ok_iff.1 h
  obtain ⟨shape, _, h⟩ := Outcome.bind_ok_iff.1 h
  have hdecl : decl.name = name := by
    cases shape with
    | object properties | records properties | list items =>
      obtain ⟨_, _, h⟩ := Outcome.bind_ok_iff.1 h
      obtain ⟨_, _, hdecl⟩ := Outcome.bind_ok_iff.1 h
      cases hdecl
      rfl
    | other =>
      cases h
      rfl
  rw [hname, hdecl]

/-- The parts of the unit that a schema becomes. -/
structure TypeUnit.Composes (c : Context) (s : SchemaNode) (u : TypeUnit) : Prop where
  typeName_eq : Declaration.typeName s.id = .ok u.typeName
  doc_eq : Header.lines s c = .ok u.doc
  declaration_eq : Declaration.ofSchema s = .ok u.declaration
  markers_eq : u.markers = c.markers s
  accessor_eq : ∀ a, u.accessor = some a →
    ∃ fields, Field.ofSchema s = .ok fields ∧ a = Accessor.ofFields u.typeName fields

theorem TypeUnit.composes_of_ofSchema (h : ofSchema c s = .ok u) : u.Composes c s := by
  simp only [ofSchema, Outcome.bind_ok_iff, Outcome.mapError_ok_iff] at h
  obtain ⟨name, hname, doc, hdoc, declaration, hdeclaration, h⟩ := h
  split at h
  · obtain ⟨accessor, haccessor, hu⟩ := Outcome.bind_ok_iff.1 h
    obtain ⟨a, ha, rfl⟩ := Outcome.map_ok_iff.1 haccessor
    obtain ⟨fields, hfields, rfl⟩ := Outcome.map_ok_iff.1 ha
    cases hu
    refine ⟨hname, hdoc, hdeclaration, rfl, ?_⟩
    rintro a ⟨⟩
    exact ⟨fields, hfields, rfl⟩
  · cases h
    exact ⟨hname, hdoc, hdeclaration, rfl, nofun⟩

/-- The unit and its declaration have one name. -/
theorem TypeUnit.Composes.declaration_name (h : u.Composes c s) :
    u.declaration.name = u.typeName := by
  have hname := Declaration.typeName_of_ofSchema h.declaration_eq
  rw [h.typeName_eq] at hname
  exact (Except.ok.inj hname).symm

theorem TypeUnit.text_typeName (h : ofSchema c s = .ok u) : u.typeName.text = s.id := by
  have hname := (composes_of_ofSchema h).typeName_eq
  exact Ident.text_of_ofText? (Declaration.typeName_ok_iff.1 hname).2

namespace SourceModule

/-- Names do not clash when no two are equal and none belongs to a marker. -/
theorem nameClash?_eq_none_iff :
    nameClash? seen schemas = none ↔
      (schemas.map SchemaNode.id).Nodup ∧
        ∀ s ∈ schemas, s.id ∉ Marker.all.map Marker.name ∧ s.id ∉ seen := by
  induction schemas generalizing seen with
  | nil => simp [nameClash?]
  | cons s rest ih =>
    simp only [nameClash?, List.contains_eq_mem, decide_eq_true_eq, List.map_cons, List.nodup_cons,
      List.forall_mem_cons]
    split
    next hmarker => simp [hmarker]
    next hmarker =>
    split
    next hseen => simp [hseen]
    next hseen =>
    rw [ih]
    constructor
    · rintro ⟨hnodup, hrest⟩
      refine ⟨⟨fun hmem => ?_, hnodup⟩, ⟨hmarker, hseen⟩, fun r hr => ⟨(hrest r hr).1, ?_⟩⟩
      · obtain ⟨r, hr, hid⟩ := List.mem_map.1 hmem
        exact (hrest r hr).2 (List.mem_cons.2 (Or.inl hid))
      · intro hmem
        exact (hrest r hr).2 (List.mem_cons_of_mem _ hmem)
    · rintro ⟨⟨hfresh, hnodup⟩, _, hrest⟩
      refine ⟨hnodup, fun r hr => ⟨(hrest r hr).1, fun hmem => ?_⟩⟩
      rcases List.mem_cons.1 hmem with hid | hmem
      · exact hfresh (List.mem_map.2 ⟨r, hr, hid⟩)
      · exact (hrest r hr).2 hmem

theorem unitsOf_ok_iff :
    unitsOf c d = .ok units ↔
      ∃ nested, nestedSchemas d.schemas.values = .ok nested ∧
        nameClash? [] (d.schemas.values ++ nested) = none ∧
        List.Forall₂ (fun s u => TypeUnit.ofSchema c s = .ok u) (d.schemas.values ++ nested)
          units := by
  simp only [unitsOf, Outcome.bind_ok_iff, Outcome.mapError_ok_iff]
  refine exists_congr fun nested => and_congr_right fun _ => ?_
  cases nameClash? [] (d.schemas.values ++ nested) with
  | some e => simp [Outcome.fail]
  | none =>
    simp only [true_and]
    exact Outcome.mapM_ok_iff

theorem texts_of_forall₂
    (h : List.Forall₂ (fun s u => TypeUnit.ofSchema c s = .ok u) schemas units) :
    units.map (fun u => u.typeName.text) = schemas.map SchemaNode.id := by
  induction h with
  | nil => rfl
  | cons hu _ ih => simp only [List.map_cons, TypeUnit.text_typeName hu, ih]

theorem filter_eq_singleton {α β : Type} [DecidableEq β] {f : α → β} {l : List α} {a : α}
    (hn : (l.map f).Nodup) (ha : a ∈ l) : l.filter (f · = f a) = [a] := by
  induction l with
  | nil => cases ha
  | cons b rest ih =>
    simp only [List.map_cons, List.nodup_cons] at hn
    rcases List.mem_cons.1 ha with rfl | ha
    · have hrest : rest.filter (f · = f a) = [] := by
        simp only [List.filter_eq_nil_iff, decide_eq_true_eq]
        intro b hb heq
        exact hn.1 (List.mem_map.2 ⟨b, hb, heq⟩)
      simp [hrest]
    · have hne : f b ≠ f a := fun heq => hn.1 (heq ▸ List.mem_map_of_mem ha)
      simp [hne, ih hn.2 ha]

/-- Exactly one unit has the name of a schema, and it is the unit of that schema. -/
theorem exists_unique_unit (h : unitsOf c d = .ok units)
    (hnested : nestedSchemas d.schemas.values = .ok nested)
    (hs : s ∈ d.schemas.values ++ nested) :
    ∃ u, TypeUnit.ofSchema c s = .ok u ∧ units.filter (·.typeName.text = s.id) = [u] := by
  obtain ⟨nested', hnested', hclash, hunits⟩ := unitsOf_ok_iff.1 h
  rw [hnested] at hnested'
  cases hnested'
  obtain ⟨u, hu, hsu⟩ := Outcome.exists_right_of_forall₂ hunits hs
  have hnodup := (nameClash?_eq_none_iff.1 hclash).1
  rw [← texts_of_forall₂ hunits] at hnodup
  refine ⟨u, hsu, ?_⟩
  rw [← TypeUnit.text_typeName hsu]
  exact filter_eq_singleton hnodup hu

end SourceModule

end ApiTypes

import ApiTypes.Code.Field
import ApiTypes.Proofs.Outcome
import Mathlib.Data.List.Nodup

/-! The fields of a schema mirror its properties, one for one and in order. -/
namespace ApiTypes.Field
variable {schema property : String} {taken : List String} {p : Property} {f : Field} {i : Ident}
  {properties : Table Property} {fields : List Field} {s : SchemaNode}

/-- The field has the name, type and description that the property gives it. -/
structure Mirrors (schema property : String) (p : Property) (f : Field) : Prop where
  wireName_eq : f.wireName = property
  accepted : Ident.accepts (Naming.fieldName property) = true
  ident_eq : Ident.ofText? (Naming.fieldName property) = some f.ident
  type_eq : FieldType.ofProperty schema property p = .ok f.type
  description_eq : f.description = p.description

theorem Mirrors.text_eq (h : f.Mirrors schema property p) :
    f.ident.text = Naming.fieldName property :=
  Ident.text_of_ofText? h.ident_eq

/-- An empty property name would become a lone underscore, which is no name. -/
theorem Mirrors.property_ne_empty (h : f.Mirrors schema property p) : property ≠ "" := by
  rintro rfl
  have hname : Naming.fieldName "" = "_" := by decide
  have hrefused : Ident.accepts "_" = false := by decide +kernel
  have haccepted := h.accepted
  simp [hname, hrefused] at haccepted

/-- What is left to do for a property with an identifier is to find its type. -/
theorem ofProperty_of_ident (accepted : Ident.accepts (Naming.fieldName property) = true)
    (hi : Ident.ofText? (Naming.fieldName property) = some i)
    (hfree : Naming.fieldName property ∉ taken) (p : Property) :
    ofProperty schema taken property p =
      (⟨property, i, ·, p.description⟩) <$>
        (FieldType.ofProperty schema property p).mapError .error := by
  simp only [ofProperty, accepted, Bool.not_true, Bool.false_eq_true, if_false,
    List.contains_eq_mem, hfree, decide_false, hi]
  rfl

theorem ofProperty_ok_iff :
    ofProperty schema taken property p = .ok f ↔
      Naming.fieldName property ∉ taken ∧ f.Mirrors schema property p := by
  constructor
  · intro h
    simp only [ofProperty, Outcome.fail] at h
    split at h
    · cases h
    next haccepted =>
    split at h
    · cases h
    next htaken =>
    split at h
    · cases h
    next ident hident =>
    obtain ⟨type, htype, hf⟩ := Outcome.bind_ok_iff.1 h
    cases hf
    exact ⟨by simpa using htaken, rfl, by simpa using haccepted, hident,
      Outcome.mapError_ok_iff.1 htype, rfl⟩
  · rintro ⟨htaken, h⟩
    rw [ofProperty_of_ident h.accepted h.ident_eq htaken]
    refine Outcome.map_ok_iff.2 ⟨f.type, Outcome.mapError_ok_iff.2 h.type_eq, ?_⟩
    rw [← h.wireName_eq, ← h.description_eq]

/-- All properties become fields when each becomes one and no two field names are equal. -/
theorem ofProperties_ok_iff :
    ofProperties schema taken properties = .ok fields ↔
      List.Forall₂ (fun q f => f.Mirrors schema q.1 q.2) properties fields ∧
        (properties.map fun q => Naming.fieldName q.1).Nodup ∧
        ∀ q ∈ properties, Naming.fieldName q.1 ∉ taken := by
  induction properties generalizing taken fields with
  | nil => cases fields <;> simp [ofProperties]
  | cons q rest ih =>
    obtain ⟨property, p⟩ := q
    simp only [ofProperties, Outcome.bind_ok_iff, ofProperty_ok_iff, ih, pure, Except.pure,
      Except.ok.injEq, List.map_cons, List.nodup_cons, List.mem_map, List.forall_mem_cons,
      not_exists, not_and]
    constructor
    · rintro ⟨f, ⟨htaken, hf⟩, fs, ⟨hfs, hnodup, hrest⟩, rfl⟩
      refine ⟨.cons hf hfs, ⟨fun r hr heq => ?_, hnodup⟩, htaken, fun r hr => ?_⟩
      · exact hrest r hr (List.mem_cons.2 (Or.inl heq))
      · exact fun hmem => hrest r hr (List.mem_cons_of_mem _ hmem)
    · rintro ⟨hall, ⟨hfresh, hnodup⟩, htaken, hrest⟩
      cases hall with
      | cons hf hfs =>
        refine ⟨_, ⟨htaken, hf⟩, _, ⟨hfs, hnodup, fun r hr hmem => ?_⟩, rfl⟩
        rcases List.mem_cons.1 hmem with heq | hmem
        · exact hfresh r hr heq
        · exact hrest r hr hmem

/-- The named fields of a schema mirror one property list, in which no two field names are equal. -/
theorem ofSchema_mirrors (h : ofSchema s = .ok fields) :
    ∃ properties : Table Property,
      List.Forall₂ (fun q f => f.Mirrors s.id q.1 q.2) properties fields ∧
        (properties.map fun q => Naming.fieldName q.1).Nodup := by
  obtain ⟨shape, hshape, h⟩ := Outcome.bind_ok_iff.1 h
  cases shape with
  | object properties | records properties =>
    obtain ⟨hfields, hnodup, _⟩ := ofProperties_ok_iff.1 h
    exact ⟨properties, hfields, hnodup⟩
  | list items | other =>
    cases h
    exact ⟨[], .nil, .nil⟩

theorem wireName_ne_empty (h : ofSchema s = .ok fields) (hf : f ∈ fields) : f.wireName ≠ "" := by
  obtain ⟨properties, hfields, _⟩ := ofSchema_mirrors h
  obtain ⟨q, _, hq⟩ := Outcome.exists_of_forall₂ hfields hf
  rw [hq.wireName_eq]
  exact hq.property_ne_empty

theorem texts_of_mirrors
    (h : List.Forall₂ (fun q f => f.Mirrors schema q.1 q.2) properties fields) :
    fields.map (fun f => f.ident.text) = properties.map fun q => Naming.fieldName q.1 := by
  induction h with
  | nil => rfl
  | cons hf _ ih => simp only [List.map_cons, hf.text_eq, ih]

/-- No two fields of a schema have one identifier. -/
theorem nodup_idents (h : ofSchema s = .ok fields) : (fields.map Field.ident).Nodup := by
  obtain ⟨properties, hfields, hnodup⟩ := ofSchema_mirrors h
  have hmap : (fields.map Field.ident).map Ident.text = fields.map fun f => f.ident.text := by
    simp
  apply List.Nodup.of_map Ident.text
  rw [hmap, texts_of_mirrors hfields]
  exact hnodup

end ApiTypes.Field

import ApiTypes.Proofs.MadeNames
import ApiTypes.Proofs.SparseObject

/-!
The fields of a schema and the properties they are made of. Fields are resolved one for each
property, up to the first property that can be none, and the error tells of that property. What has
been resolved is declared as it is, unless a type needs an identifier that cannot be made.
-/
namespace ApiTypes

/-- The fault of the first element that has one. Whether an element has one may depend on those
before it. -/
def FirstFault {α ε : Type} (F : List α → α → ε → Prop) (l : List α) (e : ε) : Prop :=
  ∃ before a after, l = before ++ a :: after ∧ F before a e ∧
    ∀ front b rest, before = front ++ b :: rest → ∀ e', ¬ F front b e'

section first
variable {α ε : Type} {F : List α → α → ε → Prop} {l : List α} {b : α} {e e' : ε}

theorem not_firstFault_nil : ¬ FirstFault F [] e := by
  rintro ⟨before, a, after, hl, _⟩
  simp at hl

theorem firstFault_cons_of_fault (hb : F [] b e') : FirstFault F (b :: l) e ↔ F [] b e := by
  constructor
  · rintro ⟨before, a, after, hl, ha, hbefore⟩
    rcases List.cons_eq_append_iff.1 hl with ⟨rfl, hl⟩ | ⟨front, rfl, _⟩
    · cases hl
      exact ha
    · exact absurd hb (hbefore [] b front rfl e')
  · intro h
    exact ⟨[], b, l, rfl, h, fun _ _ _ hfront => by simp at hfront⟩

theorem firstFault_cons_iff (hb : ∀ e', ¬ F [] b e') :
    FirstFault F (b :: l) e ↔ FirstFault (fun before => F (b :: before)) l e := by
  constructor
  · rintro ⟨before, a, after, hl, ha, hbefore⟩
    rcases List.cons_eq_append_iff.1 hl with ⟨rfl, hl⟩ | ⟨before, rfl, rfl⟩
    · cases hl
      exact absurd ha (hb e)
    · refine ⟨before, a, after, rfl, ha, fun front c rest hfront => ?_⟩
      exact hbefore (b :: front) c rest (by rw [hfront, List.cons_append])
  · rintro ⟨before, a, after, rfl, ha, hbefore⟩
    refine ⟨b :: before, a, after, rfl, ha, fun front c rest hfront => ?_⟩
    rcases List.cons_eq_append_iff.1 hfront with ⟨rfl, hc⟩ | ⟨front, rfl, hrest⟩
    · rwa [(List.cons.inj hc).1]
    · exact hbefore front c rest hrest

end first

namespace Naming
variable {property : String}

/-- No field is named after a reserved word. -/
theorem fieldName_not_reserved : fieldName property ∉ reservedFieldNames := by
  have hmarked : ∀ word ∈ reservedFieldNames, word.push '_' ∉ reservedFieldNames := by
    decide +kernel
  unfold fieldName avoidReserved
  split
  · next h => exact hmarked _ (by simpa using h)
  · next h => simpa using h

end Naming

namespace Field
variable {schema property : String} {taken : List String} {p : Property} {f : Field}
  {properties before done : Table Property} {fields : List Field} {s : SchemaNode} {e : Failure}
  {i : Ident}

/-- Why a property becomes no field, by the first of three tests that it fails. The second one looks
at the properties before it. -/
inductive Fault (schema : String) (before : Table Property) (property : String) (p : Property) :
    GenerationError → Prop
  | badName (refused : Ident.accepts (Naming.fieldName property) = false) :
      Fault schema before property p (.code (.badFieldName schema property))
  | clash (accepted : Ident.accepts (Naming.fieldName property) = true)
      (taken : ∃ q ∈ before, Naming.fieldName q.1 = Naming.fieldName property) :
      Fault schema before property p
        (.code (.fieldClash schema property (Naming.fieldName property)))
  | unmappable {e : GenerationError} (accepted : Ident.accepts (Naming.fieldName property) = true)
      (free : ∀ q ∈ before, Naming.fieldName q.1 ≠ Naming.fieldName property)
      (error : FieldType.ofProperty schema property p = .error e) :
      Fault schema before property p e

/-- The fields are those of the properties, and the declaration of the schema has exactly them. -/
structure Resolves (s : SchemaNode) (properties : Table Property) (fields : List Field) : Prop where
  mirrors : List.Forall₂ (fun q f => f.Mirrors s.id q.1 q.2) properties fields
  nodup_texts : (fields.map fun f => f.ident.text).Nodup
  plain : ∀ f ∈ fields, f.ident.raw = false ∧ f.ident.name ∉ Ident.keywords ∧
    f.ident.name ∉ Naming.reservedFieldNames
  /-- A schema with a name is declared unless the type of a field has a padded name. -/
  declared_iff : ∀ i, Declaration.typeName s.id = .ok i →
    ((∃ d, Declaration.ofSchema s = .ok d) ↔ ∀ f ∈ fields, ¬ f.type.IsPadded)
  declares : ∀ d, Declaration.ofSchema s = .ok d →
    ∃ decls, d.body = .fields decls ∧
      List.Forall₂ (fun f decl => FieldDecl.Declares f decl ∧
        decl.doc = Text.docLines (f.description.getD FieldDecl.noDescription)) fields decls

theorem ofProperty_of_refused (h : Ident.accepts (Naming.fieldName property) = false) :
    ofProperty schema taken property p = Outcome.fail (.code (.badFieldName schema property)) := by
  rw [ofProperty, h]
  rfl

theorem ofProperty_error_iff
    (htaken : ∀ name, name ∈ taken ↔ ∃ q ∈ before, Naming.fieldName q.1 = name) :
    ofProperty schema taken property p = .error e ↔
      ∃ fault, Fault schema before property p fault ∧ e = .error fault := by
  have hname := htaken (Naming.fieldName property)
  constructor
  · intro h
    simp only [ofProperty, Outcome.fail] at h
    split at h
    · next hrefused =>
      cases h
      exact ⟨_, .badName (by simpa using hrefused), rfl⟩
    next haccepted =>
    have haccepted : Ident.accepts (Naming.fieldName property) = true := by simpa using haccepted
    split at h
    · next hmem =>
      cases h
      exact ⟨_, .clash haccepted (hname.1 (by simpa using hmem)), rfl⟩
    next hfree =>
    have hfree : ∀ q ∈ before, Naming.fieldName q.1 ≠ Naming.fieldName property :=
      fun q hq heq => hfree (by simpa using hname.2 ⟨q, hq, heq⟩)
    obtain ⟨i, hi, _⟩ := Naming.exists_of_accepts_fieldName haccepted
    rw [hi] at h
    rcases Outcome.bind_error_iff.1 h with h | ⟨_, _, h⟩
    · obtain ⟨fault, hfault, rfl⟩ := Outcome.mapError_error_iff.1 h
      exact ⟨fault, .unmappable haccepted hfree hfault, rfl⟩
    · cases h
  · rintro ⟨fault, hfault, rfl⟩
    cases hfault with
    | badName refused => exact ofProperty_of_refused refused
    | clash accepted clashes =>
      simp [ofProperty, Outcome.fail, accepted, hname.2 clashes, bind, Except.bind]
    | unmappable accepted free error =>
      obtain ⟨i, hi, _⟩ := Naming.exists_of_accepts_fieldName accepted
      have hfree : Naming.fieldName property ∉ taken := by
        intro hmem
        obtain ⟨q, hq, heq⟩ := hname.1 hmem
        exact free q hq heq
      rw [ofProperty_of_ident accepted hi hfree]
      exact Outcome.map_error_iff.2 (Outcome.mapError_error_iff.2 ⟨fault, error, rfl⟩)

/-- The fields of properties that come after those in `done` fail with the first fault. -/
theorem ofProperties_error_iff
    (htaken : ∀ name, name ∈ taken ↔ ∃ q ∈ done, Naming.fieldName q.1 = name) :
    ofProperties schema taken properties = .error e ↔
      ∃ fault, FirstFault (fun before q => Fault schema (done ++ before) q.1 q.2) properties fault ∧
        e = .error fault := by
  induction properties generalizing taken done with
  | nil => simp [ofProperties, not_firstFault_nil]
  | cons q rest ih =>
    obtain ⟨property, p⟩ := q
    have hhead : ∀ e, ofProperty schema taken property p = .error e ↔
        ∃ fault, Fault schema done property p fault ∧ e = .error fault :=
      fun e => ofProperty_error_iff htaken
    rw [ofProperties, Outcome.bind_error_iff]
    cases hfield : ofProperty schema taken property p with
    | error e' =>
      obtain ⟨fault, hfault, rfl⟩ := (hhead e').1 hfield
      rw [← List.append_nil done] at hfault
      have hfirst (e : GenerationError) := firstFault_cons_of_fault (b := (property, p)) (l := rest)
        (F := fun before q => Fault schema (done ++ before) q.1 q.2) (e := e) hfault
      simp only [hfirst, List.append_nil, ← hhead, hfield]
      simp
    | ok field =>
      have hfine : ∀ fault, ¬ Fault schema (done ++ []) property p fault := by
        intro fault hfault
        rw [List.append_nil] at hfault
        cases hfield.symm.trans ((hhead _).2 ⟨fault, hfault, rfl⟩)
      have hrest : ∀ name, name ∈ Naming.fieldName property :: taken ↔
          ∃ q ∈ done ++ [(property, p)], Naming.fieldName q.1 = name := by
        intro name
        simp [htaken, or_and_right, exists_or, or_comm, eq_comm]
      simp only [firstFault_cons_iff (b := (property, p))
        (F := fun before q => Fault schema (done ++ before) q.1 q.2) hfine]
      have ih := ih hrest
      simp only [List.append_assoc, List.singleton_append] at ih
      rw [← ih]
      simp [Outcome.bind_error_iff, pure, Except.pure]

/-- Properties in front are resolved first, and their field names are taken for those behind. -/
theorem ofProperties_append (before rest : Table Property) :
    ofProperties schema taken (before ++ rest) = (do
      let fields ← ofProperties schema taken before
      let others ← ofProperties schema ((before.map (Naming.fieldName ·.1)).reverse ++ taken) rest
      return fields ++ others) := by
  induction before generalizing taken with
  | nil =>
    change ofProperties schema taken rest = (do
      let others ← ofProperties schema taken rest
      return [] ++ others)
    simp
  | cons q front ih => simp [ofProperties, ih]

/-- A property without a field name is as far as resolving can get. -/
theorem ofProperties_of_refused (h : Ident.accepts (Naming.fieldName property) = false)
    (after : Table Property) :
    ofProperties schema taken (before ++ (property, p) :: after) = (do
      let _ ← ofProperties schema taken before
      Outcome.fail (.code (.badFieldName schema property))) := by
  simp only [ofProperties_append, ofProperties, ofProperty_of_refused h]
  rfl

section shapes
variable
  (hshape : s.shape = .ok (.object properties) ∨ s.shape = .ok (.records properties))
include hshape

theorem ofSchema_of_shape : ofSchema s = ofProperties s.id [] properties := by
  rcases hshape with hshape | hshape
  all_goals
    rw [ofSchema, hshape]
    rfl

theorem declaration_of_shape (hfields : ofSchema s = .ok fields)
    (hname : Declaration.typeName s.id = .ok i) :
    Declaration.ofSchema s =
      (⟨i, .fields ·⟩) <$> fields.mapM FieldDecl.ofField := by
  rw [Declaration.ofSchema_of_fields hname hshape, hfields]
  rfl

end shapes

theorem exists_ofField_iff (h : f.Mirrors schema property p) :
    (∃ decl, FieldDecl.ofField f = .ok decl) ↔ ¬ f.type.IsPadded := by
  have hstop (n : String) := FieldType.expr_stops_iff (n := n) h.type_eq
  cases hdecl : FieldDecl.ofField f with
  | ok decl =>
    simp only [Except.ok.injEq, exists_eq', true_iff]
    rintro ⟨n, hn⟩
    cases hdecl.symm.trans (FieldDecl.ofField_error_iff.2 ((hstop n).2 hn))
  | error e =>
    have hexpr := FieldDecl.ofField_error_iff.1 hdecl
    obtain ⟨n, _, _, rfl⟩ := FieldType.expr_error_iff.1 hexpr
    simpa using ⟨n, (hstop n).1 hexpr⟩

theorem resolves_of_ofSchema
    (hshape : s.shape = .ok (.object properties) ∨ s.shape = .ok (.records properties))
    (hfields : ofSchema s = .ok fields) : Resolves s properties fields := by
  have hresolved := (ofSchema_of_shape hshape).symm.trans hfields
  obtain ⟨hmirrors, hnodup, _⟩ := ofProperties_ok_iff.1 hresolved
  constructor
  case mirrors => exact hmirrors
  case nodup_texts =>
    rw [texts_of_mirrors hmirrors]
    exact hnodup
  case plain =>
    intro f hf
    obtain ⟨q, _, hq⟩ := Outcome.exists_of_forall₂ hmirrors hf
    obtain ⟨i, hi, hraw, hkeyword⟩ := Naming.exists_of_accepts_fieldName hq.accepted
    obtain rfl : i = f.ident := Option.some.inj (hi.symm.trans hq.ident_eq)
    have hname : f.ident.name = Naming.fieldName q.1 := by
      rw [← hq.text_eq, Ident.text, hraw]
      rfl
    exact ⟨hraw, hkeyword, hname ▸ Naming.fieldName_not_reserved⟩
  case declared_iff =>
    intro i hname
    have hdecl (f : Field) (hf : f ∈ fields) :
        (∃ decl, FieldDecl.ofField f = .ok decl) ↔ ¬ f.type.IsPadded := by
      obtain ⟨q, _, hq⟩ := Outcome.exists_of_forall₂ hmirrors hf
      exact exists_ofField_iff hq
    rw [declaration_of_shape hshape hfields hname, ← forall₂_congr hdecl,
      ← Outcome.exists_mapM_iff]
    simp [Outcome.map_ok_iff]
  case declares =>
    intro d hd
    rw [declaration_of_shape hshape hfields (Declaration.typeName_of_ofSchema hd)] at hd
    obtain ⟨decls, hdecls, hbody⟩ := Outcome.map_ok_iff.1 hd
    refine ⟨decls, by rw [← hbody], (Outcome.mapM_ok_iff.1 hdecls).imp fun f decl hdecl => ?_⟩
    obtain ⟨_, _, hdoc⟩ := Outcome.bind_ok_iff.1 hdecl
    exact ⟨FieldDecl.declares_of_ofField hdecl, by cases hdoc; rfl⟩

/-- The properties of an object, or of the objects in an array, become fields one for one, in order,
under different names that are identifiers and no keywords, and the declaration has exactly these
fields unless it needs an identifier that cannot be made. If some property becomes no field, the
error is the fault of the first that has one. -/
theorem resolves_properties
    (hshape : s.shape = .ok (.object properties) ∨ s.shape = .ok (.records properties)) :
    (∀ fields, ofSchema s = .ok fields → Resolves s properties fields) ∧
      ∀ e, ofSchema s = .error e ↔
        ∃ fault, FirstFault (fun before q => Fault s.id before q.1 q.2) properties fault ∧
          e = .error fault := by
  refine ⟨fun fields => resolves_of_ofSchema hshape, fun e => ?_⟩
  have htaken : ∀ name, name ∈ [] ↔ ∃ q ∈ ([] : Table Property), Naming.fieldName q.1 = name := by
    simp
  rw [ofSchema_of_shape hshape]
  exact ofProperties_error_iff htaken

/-- An array of objects with a property for which there is a reserved word. -/
def snippets : SchemaNode where
  id := "Snippets"
  kind := some .array
  items := some (.ofFields [("videoId", .of .string), ("type", .referTo "Kind")])

/-- Two properties with one field name, the second of which has no type either, before one with no
name at all. -/
def twinFields : SchemaNode where
  id := "Video"
  kind := some .object
  properties := [("videoId", .of .string), ("video_id", {}), ("", .of .string)]

theorem resolves_properties_snippets :
    (∃ fields, ofSchema snippets = .ok fields ∧ fields.map (·.ident.text) = ["video_id", "type_"] ∧
        Resolves snippets [("videoId", .of .string), ("type", .referTo "Kind")] fields) ∧
      FirstFault (fun before q => Fault "Video" before q.1 q.2) twinFields.properties
        (.code (.fieldClash "Video" "video_id" "video_id")) := by
  have hfields : (do
      let fields ← ofSchema snippets
      return fields.map (·.ident.text) : Outcome _) = .ok ["video_id", "type_"] := by
    decide +kernel
  have herror : ofSchema twinFields =
      .error (.error (.code (.fieldClash "Video" "video_id" "video_id"))) := by
    decide +kernel
  obtain ⟨fields, hfields, htexts⟩ := Outcome.bind_ok_iff.1 hfields
  have hresolves := (resolves_properties (s := snippets) (Or.inr rfl)).1 fields hfields
  refine ⟨⟨fields, hfields, Except.ok.inj htexts, hresolves⟩, ?_⟩
  obtain ⟨fault, hfault, heq⟩ := ((resolves_properties (s := twinFields) (Or.inl rfl)).2 _).1 herror
  cases heq
  exact hfault

/-- A schema with a field that refers to a name behind a blank. -/
def spacedReference : SchemaNode where
  id := "Video"
  kind := some .object
  properties := [("link", .referTo " Link")]

/-- The field of this schema is resolved, and the schema has a name, but no declaration. -/
theorem spacedReference_not_declared :
    (∃ fields, ofSchema spacedReference = .ok fields) ∧
      (∃ i, Declaration.typeName spacedReference.id = .ok i) ∧
      Declaration.ofSchema spacedReference = .error (.noIdentifier " Link") := by
  have hfields : (do
      let _ ← ofSchema spacedReference
      let _ ← Declaration.typeName spacedReference.id : Outcome Unit) = .ok () := by
    decide +kernel
  obtain ⟨fields, hfields, h⟩ := Outcome.bind_ok_iff.1 hfields
  obtain ⟨i, hname, _⟩ := Outcome.bind_ok_iff.1 h
  exact ⟨⟨fields, hfields⟩, ⟨i, hname⟩, by decide +kernel⟩

end Field

end ApiTypes

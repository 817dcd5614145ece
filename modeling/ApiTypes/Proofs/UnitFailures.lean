import ApiTypes.Proofs.HeaderSections
import ApiTypes.Proofs.MappableProperty
import ApiTypes.Proofs.SparseObject

/-!
Schemas without a unit. Documentation, declaration and accessor each look at the schema for
themselves, and yet they agree about what is wrong with it: a unit fails in the way its declaration
does. Only a number with an unknown format is declared and has no documentation.
-/
namespace ApiTypes

/-- The schema is a number with this format, which no number has. -/
def SchemaNode.HasUnknownFormat (s : SchemaNode) (format : String) : Prop :=
  s.format = some format ∧ ∃ kind ∈ [JsonType.integer, .number],
    s.kind = some kind ∧ format ∉ FieldType.knownFormats kind

variable {c : Context} {d : Document} {s : SchemaNode} {items : Property} {e : GenerationError}
  {format : String} {i : Ident}

namespace SchemaNode

theorem kind_of_shape_eq_list (h : s.shape = .ok (.list items)) :
    s.kind = some .array ∧ s.items = some items := by
  unfold shape at h
  split at h
  · cases h
  · next hkind =>
    split at h
    · cases h
    · next hitems =>
      split at h
      · split at h <;> cases h
        exact ⟨hkind, hitems⟩
      · cases h
        exact ⟨hkind, hitems⟩
  · cases h
  · cases h

/-- A list, seen as a property, has the type of an array of its elements. -/
theorem ofProperty_asProperty (h : s.shape = .ok (.list items)) (schema property : String) :
    FieldType.ofProperty schema property s.asProperty =
      FieldType.ofProperty schema property (.arrayOf items) := by
  obtain ⟨hkind, hitems⟩ := kind_of_shape_eq_list h
  rw [FieldType.ofProperty, FieldType.ofProperty,
    FieldType.ofDescriptor_array (p := s.asProperty) rfl hkind hitems,
    FieldType.ofDescriptor_array (p := .arrayOf items) rfl rfl rfl]

theorem shape_eq_other_iff :
    s.shape = .ok .other ↔ ∃ kind ∉ [JsonType.array, .object], s.kind = some kind := by
  constructor
  · intro h
    unfold shape at h
    split at h
    · cases h
    · split at h
      · cases h
      · split at h
        · split at h <;> cases h
        · cases h
    · next kind hobject harray hkind => exact ⟨kind, by simpa using ⟨harray, hobject⟩, hkind⟩
    · cases h
  · rintro ⟨kind, hscalar, hkind⟩
    rw [shape, hkind]
    cases kind <;> simp at hscalar <;> rfl

theorem HasUnknownFormat.shape_eq (h : s.HasUnknownFormat format) : s.shape = .ok .other := by
  obtain ⟨_, kind, hnumeric, hkind, _⟩ := h
  exact shape_eq_other_iff.2 ⟨kind, FieldType.not_mem_structured_iff.2 (Or.inr hnumeric), hkind⟩

end SchemaNode

namespace Header

theorem underlyingType?_of_list (h : s.shape = .ok (.list items)) :
    underlyingType? s =
      some <$> FieldType.ofProperty s.id FieldType.listElement (.arrayOf items) := by
  rw [underlyingType?, h, ← SchemaNode.ofProperty_asProperty h]
  rfl

/-- Of a schema without structure no underlying type can be told when it is a number with an unknown
format, and only then. -/
theorem underlyingType?_error_iff_of_other (h : s.shape = .ok .other) :
    underlyingType? s = .error e ↔
      ∃ format, s.HasUnknownFormat format ∧
        e = .unknownFormat s.id FieldType.listElement format := by
  obtain ⟨kind, hscalar, hkind⟩ := SchemaNode.shape_eq_other_iff.1 h
  have htype : underlyingType? s =
      some <$> FieldType.ofProperty s.id FieldType.listElement s.asProperty := by
    rw [underlyingType?, h]
    rfl
  rw [htype, Outcome.map_error_iff, FieldType.ofProperty,
    FieldType.ofDescriptor_scalar (p := s.asProperty) rfl hkind hscalar, Outcome.map_error_iff,
    FieldType.ofScalar_error_iff]
  constructor
  · rintro (⟨hmem, _⟩ | ⟨hnumeric, format, hunknown, hformat, rfl⟩)
    · exact absurd hmem hscalar
    · exact ⟨format, ⟨hformat, kind, hnumeric, hkind, hunknown⟩, rfl⟩
  · rintro ⟨format, ⟨hformat, kind', hnumeric, hkind', hunknown⟩, rfl⟩
    obtain rfl : kind = kind' := Option.some.inj (hkind.symm.trans hkind')
    exact Or.inr ⟨hnumeric, format, hunknown, hformat, rfl⟩

end Header

namespace Declaration

/-- What the documentation cannot tell of a schema with a name, the declaration cannot either,
except for numbers with unknown formats. -/
theorem ofSchema_error_of_underlyingType? (hname : typeName s.id = .ok i)
    (h : Header.underlyingType? s = .error e) :
    ofSchema s = .error (.error e) ∨
      ∃ format, s.HasUnknownFormat format ∧
        e = .unknownFormat s.id FieldType.listElement format := by
  cases hshape : s.shape with
  | error e' =>
    left
    rw [Header.underlyingType?, hshape] at h
    cases h
    rw [ofSchema, hname, hshape]
    rfl
  | ok shape =>
  cases shape with
  | object fields | records fields =>
    rw [Header.underlyingType?, hshape] at h
    cases h
  | list items =>
    left
    rw [Header.underlyingType?_of_list hshape, Outcome.map_error_iff] at h
    simp only [ofSchema, hname, hshape, h, Except.mapError, bind, Except.bind]
  | other => exact Or.inr ((Header.underlyingType?_error_iff_of_other hshape).1 h)

theorem ofSchema_of_hasUnknownFormat (hname : typeName s.id = .ok i)
    (h : s.HasUnknownFormat format) : ofSchema s = .ok ⟨i, .bare⟩ := by
  rw [ofSchema, hname, h.shape_eq]
  rfl

end Declaration

namespace TypeUnit
variable {f : Failure}

/-- Once there is documentation, all hangs on the declaration: the fields that the accessor lists
have been resolved for it. -/
theorem ofSchema_error_iff_of_doc {doc : List String} (hname : Declaration.typeName s.id = .ok i)
    (hdoc : Header.lines s c = .ok doc) :
    ofSchema c s = .error f ↔ Declaration.ofSchema s = .error f := by
  cases hdecl : Declaration.ofSchema s with
  | error f' => simp [ofSchema, hname, hdoc, hdecl, Except.mapError, bind, Except.bind]
  | ok decl =>
    obtain ⟨fields, hfields, _⟩ := Declaration.declares_namedFields hdecl
    simp only [ofSchema, hname, hdoc, hdecl, hfields, Except.mapError, bind, Except.bind]
    split <;> simp [Functor.map, Except.map, pure, Except.pure]

/-- Where nothing is wrong with what documentation says of activities, a unit fails as its
declaration does, or because of a number with an unknown format. -/
theorem ofSchema_error_iff_of_lines
    (hlines : ∀ e, Header.lines s c = .error e ↔ Header.underlyingType? s = .error e) :
    ofSchema c s = .error f ↔
      Declaration.ofSchema s = .error f ∨
        ∃ i format, Declaration.typeName s.id = .ok i ∧ s.HasUnknownFormat format ∧
          f = .error (.unknownFormat s.id FieldType.listElement format) := by
  cases hname : Declaration.typeName s.id with
  | error f' => simp [ofSchema, Declaration.ofSchema, hname, bind, Except.bind]
  | ok i =>
  have hunknown {format : String} (hformat : s.HasUnknownFormat format) :
      Header.underlyingType? s = .error (.unknownFormat s.id FieldType.listElement format) :=
    (Header.underlyingType?_error_iff_of_other hformat.shape_eq).2 ⟨format, hformat, rfl⟩
  cases hdoc : Header.lines s c with
  | error e =>
    have hunit : ofSchema c s = .error (.error e) := by
      simp [ofSchema, hname, hdoc, Except.mapError, bind, Except.bind]
    have htype := (hlines e).1 hdoc
    rw [hunit, Except.error.injEq]
    constructor
    · rintro rfl
      rcases Declaration.ofSchema_error_of_underlyingType? hname htype with
        hdecl | ⟨format, hformat, rfl⟩
      · exact Or.inl hdecl
      · exact Or.inr ⟨i, format, rfl, hformat, rfl⟩
    · rintro (hdecl | ⟨_, format, _, hformat, rfl⟩)
      · rcases Declaration.ofSchema_error_of_underlyingType? hname htype with
          hdecl' | ⟨format, hformat, _⟩
        · exact Except.error.inj (hdecl'.symm.trans hdecl)
        · cases hdecl.symm.trans (Declaration.ofSchema_of_hasUnknownFormat hname hformat)
      · rw [Except.error.inj (htype.symm.trans (hunknown hformat))]
  | ok doc =>
    rw [ofSchema_error_iff_of_doc hname hdoc]
    refine ⟨Or.inl, ?_⟩
    rintro (hdecl | ⟨_, format, _, hformat, _⟩)
    · exact hdecl
    · cases hdoc.symm.trans ((hlines _).2 (hunknown hformat))

/-- A unit fails exactly as its declaration does, whichever markers a classifier gives it. The one
exception are numbers with a name and an unknown format, whose declaration says nothing of the
number. The fields that an accessor lists can be resolved whenever there is a declaration. -/
theorem fails_with_declaration (h : Context.ofDocument d = .ok c) (k : Classifier)
    (s : SchemaNode) :
    (∀ f, ofSchema { c with classifier := k } s = .error f ↔
      Declaration.ofSchema s = .error f ∨
        ∃ i format, Declaration.typeName s.id = .ok i ∧ s.HasUnknownFormat format ∧
          f = .error (.unknownFormat s.id FieldType.listElement format)) ∧
      (∀ i format, Declaration.typeName s.id = .ok i → s.HasUnknownFormat format →
        Declaration.ofSchema s = .ok ⟨i, .bare⟩) ∧
      ∀ decl, Declaration.ofSchema s = .ok decl → ∃ fields, Field.ofSchema s = .ok fields := by
  refine ⟨fun f => ?_, fun _ _ => Declaration.ofSchema_of_hasUnknownFormat, fun decl hdecl => ?_⟩
  · obtain ⟨text, htext, _⟩ :=
      Header.exists_isSolid_activities (Context.registered_of_ofDocument h) s
    refine ofSchema_error_iff_of_lines fun e => ?_
    -- the classifier is nothing that the documentation reads
    rw [Header.lines_eq_map (c := { c with classifier := k }) htext, Outcome.map_error_iff]
  · obtain ⟨fields, hfields, _⟩ := Declaration.declares_namedFields hdecl
    exact ⟨fields, hfields⟩

/-- A number with a format that no number has. -/
def viewCount : SchemaNode :=
  { id := "ViewCount", kind := some .integer, format := some "int128" }

/-- A list of elements without a type. -/
def untypedList : SchemaNode :=
  { id := "Captions", kind := some .array, items := some {} }

theorem fails_with_declaration_upload :
    ∃ c, Context.ofDocument Header.uploadDocument = .ok c ∧
      (∃ decl, Declaration.ofSchema viewCount = .ok decl) ∧
      ofSchema { c with classifier := .always [.requestValue] } viewCount =
        .error (.error (.unknownFormat "ViewCount" "items" "int128")) ∧
      ofSchema { c with classifier := .always [.requestValue] } untypedList =
        .error (.error (.unmappable "Captions" "items" .untyped)) := by
  obtain ⟨c, hc, _⟩ := Context.ofDocument_of_registrable (d := Header.uploadDocument)
    ⟨by decide +kernel, by decide +kernel⟩
  have hformat : viewCount.HasUnknownFormat "int128" :=
    ⟨rfl, .integer, by decide, rfl, by decide⟩
  have hname : (do let _ ← Declaration.typeName viewCount.id : Outcome Unit) = .ok () := by
    decide +kernel
  obtain ⟨i, hname, _⟩ := Outcome.bind_ok_iff.1 hname
  have huntyped : Declaration.ofSchema untypedList =
      .error (.error (.unmappable "Captions" "items" .untyped)) := by
    decide +kernel
  obtain ⟨hcount, hbare, _⟩ := fails_with_declaration hc (.always [.requestValue]) viewCount
  obtain ⟨hlist, _⟩ := fails_with_declaration hc (.always [.requestValue]) untypedList
  exact ⟨c, hc, ⟨_, hbare i _ hname hformat⟩, (hcount _).2 (Or.inr ⟨i, _, hname, hformat, rfl⟩),
    (hlist _).2 (Or.inl huntyped)⟩

end TypeUnit

end ApiTypes

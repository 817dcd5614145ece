import ApiTypes.Document.Encode
import ApiTypes.Proofs.DerivedNames
import ApiTypes.Proofs.ExactName
import ApiTypes.Proofs.FieldList
import ApiTypes.Proofs.FirstViolation
import ApiTypes.Run

/-!
Where generation stops without an error. Names are accepted as they are read, and an identifier is
made of each accepted name when code is written. A name with blanks or comments around it is
accepted although no identifier can be made of it, and the unit of a schema stops at the first such
name that it writes.
-/
namespace ApiTypes

/-- The text is accepted as a name but holds more than the name. -/
def Ident.IsPadded (s : String) : Prop :=
  accepts s = true ∧ ∃ c ∈ s.toList, isSurrounding c = true

/-- The name at the core of the type is padded. -/
def FieldType.IsPadded (t : FieldType) : Prop :=
  ∃ n, t.core = .named n ∧ Ident.IsPadded n

/-- The unit of the schema needs an identifier of this text, and none can be made of it. -/
inductive SchemaNode.StopsAt (c : Context) (s : SchemaNode) : String → Prop
  /-- The name of the type is padded. -/
  | name (padded : Ident.IsPadded s.id) : s.StopsAt c s.id
  /-- The text names the type of the first field whose type has a padded name. -/
  | field {i : Ident} {doc : List String} {fields : List Field} {f : Field} {n : String}
      (typeName_eq : Declaration.typeName s.id = .ok i)
      (doc_eq : Header.lines s c = .ok doc)
      (fields_eq : Field.ofSchema s = .ok fields)
      (first : IsFirst (fun _ f => f.type.IsPadded) fields f)
      (core_eq : f.type.core = .named n) : s.StopsAt c n
  /-- The schema is a list whose elements have a type with a padded name. -/
  | element {i : Ident} {doc : List String} {items : Property} {t : FieldType} {n : String}
      (typeName_eq : Declaration.typeName s.id = .ok i)
      (doc_eq : Header.lines s c = .ok doc)
      (shape_eq : s.shape = .ok (.list items))
      (type_eq : FieldType.ofProperty s.id FieldType.listElement (.arrayOf items) = .ok t)
      (core_eq : t.core = .named n)
      (padded : Ident.IsPadded n) : s.StopsAt c n

variable {c : Context} {d : Document} {s : SchemaNode} {n : String} {t : FieldType} {f : Field}
  {fields : List Field} {e : Failure}

namespace Ident

/-- Of accepted texts, the padded ones are those that no identifier can be made of. -/
theorem isPadded_iff : IsPadded n ↔ accepts n = true ∧ ofText? n = none := by
  refine and_congr_right fun haccepted => ?_
  have hmade := isSome_ofText?_iff haccepted
  rw [← Option.not_isSome_iff_eq_none, hmade]
  simp

end Ident

namespace SchemaNode

theorem StopsAt.isPadded (h : s.StopsAt c n) : Ident.IsPadded n := by
  cases h with
  | name padded => exact padded
  | field _ _ _ first core_eq =>
    obtain ⟨_, _, _, ⟨m, hm, hpadded⟩, _⟩ := first
    rw [core_eq, FieldType.named.injEq] at hm
    rwa [hm]
  | element _ _ _ _ _ padded => exact padded

end SchemaNode

namespace FieldType

/-- A type is written unless no identifier can be made of the name at its core. -/
theorem expr_error_iff :
    t.expr = .error e ↔ ∃ n, t.core = .named n ∧ Ident.ofText? n = none ∧ e = .noIdentifier n := by
  induction t with
  | named name =>
    simp only [expr, core_named, named.injEq, exists_eq_left']
    cases Ident.ofText? name <;> simp [eq_comm]
  | list t ih | map t ih | option t ih =>
    simp only [expr, core, ← ih, Outcome.bind_error_iff]
    simp [pure, Except.pure]
  | _ => simp [expr, core]

/-- Every name that the mapping gives a type is accepted. -/
theorem accepts_of_core {schema property : String} {mayBeOptional : Bool} {p : Property}
    (h : ofDescriptor schema property mayBeOptional p = .ok t) (hn : t.core = .named n) :
    Ident.accepts n = true := by
  fun_induction ofDescriptor schema property mayBeOptional p generalizing t with
  | case1 | case6 =>
    cases h
    rw [core_wrap, core_named, named.injEq] at hn
    rwa [← hn]
  | case5 _ _ _ _ _ _ element ih | case9 _ _ _ _ _ element ih =>
    obtain ⟨inner, hinner, rfl⟩ := Outcome.map_ok_iff.1 h
    exact ih hinner hn
  | case10 =>
    obtain ⟨scalar, hscalar, rfl⟩ := Outcome.map_ok_iff.1 h
    rw [core_wrap] at hn
    exact absurd hn (core_ofScalar hscalar n)
  | _ => cases h

theorem expr_stops_iff {schema property : String} {p : Property}
    (h : ofProperty schema property p = .ok t) :
    t.expr = .error (.noIdentifier n) ↔ t.core = .named n ∧ Ident.IsPadded n := by
  rw [expr_error_iff]
  constructor
  · rintro ⟨m, hm, hnone, hstop⟩
    cases hstop
    exact ⟨hm, Ident.isPadded_iff.2 ⟨accepts_of_core h hm, hnone⟩⟩
  · rintro ⟨hn, hpadded⟩
    exact ⟨n, hn, (Ident.isPadded_iff.1 hpadded).2, rfl⟩

end FieldType

namespace Field

theorem ofProperty_ne_noIdentifier {schema property : String} {taken : List String}
    {p : Property} : ofProperty schema taken property p ≠ .error (.noIdentifier n) := by
  intro h
  simp only [ofProperty, Outcome.fail] at h
  split at h
  · cases h
  next haccepts =>
  split at h
  · cases h
  obtain ⟨i, hi, _⟩ := Naming.exists_of_accepts_fieldName (by simpa using haccepts)
  simp [hi, Outcome.bind_error_iff, Outcome.mapError_error_iff, pure, Except.pure] at h

theorem ofProperties_ne_noIdentifier {schema : String} {taken : List String}
    {properties : Table Property} :
    ofProperties schema taken properties ≠ .error (.noIdentifier n) := by
  induction properties generalizing taken with
  | nil => simp [ofProperties]
  | cons q rest ih =>
    intro h
    rcases Outcome.bind_error_iff.1 h with h | ⟨field, _, h⟩
    · exact ofProperty_ne_noIdentifier h
    · rcases Outcome.bind_error_iff.1 h with h | ⟨_, _, h⟩
      · exact ih h
      · cases h

/-- The fields of a schema are resolved or refused: of every accepted field name an identifier can
be made. -/
theorem ofSchema_ne_noIdentifier : ofSchema s ≠ .error (.noIdentifier n) := by
  intro h
  rcases Outcome.bind_error_iff.1 h with h | ⟨shape, _, h⟩
  · obtain ⟨e, _, he⟩ := Outcome.mapError_error_iff.1 h
    cases he
  · cases shape with
    | object properties | records properties => exact ofProperties_ne_noIdentifier h
    | list items | other => cases h

end Field

theorem FieldDecl.ofField_error_iff : ofField f = .error e ↔ f.type.expr = .error e := by
  simp [ofField, Outcome.bind_error_iff, pure, Except.pure]

/-- The fields of a schema are declared up to the first whose type has a padded name. -/
theorem FieldDecl.mapM_ofField_stops_iff (h : Field.ofSchema s = .ok fields) :
    fields.mapM ofField = .error (.noIdentifier n) ↔
      ∃ f, IsFirst (fun _ f => f.type.IsPadded) fields f ∧ f.type.core = .named n := by
  obtain ⟨properties, hmirrors, _⟩ := Field.ofSchema_mirrors h
  have hstop : ∀ f ∈ fields, ∀ n,
      ofField f = .error (.noIdentifier n) ↔ f.type.core = .named n ∧ Ident.IsPadded n := by
    intro f hf n
    obtain ⟨q, _, hq⟩ := Outcome.exists_of_forall₂ hmirrors hf
    rw [ofField_error_iff, FieldType.expr_stops_iff hq.type_eq]
  have hrefuses : ∀ f ∈ fields, Refuses ofField f ↔ f.type.IsPadded := by
    intro f hf
    simp only [FieldType.IsPadded, ← hstop f hf]
    constructor
    · rintro ⟨e, he⟩
      obtain ⟨m, _, _, rfl⟩ := FieldType.expr_error_iff.1 (ofField_error_iff.1 he)
      exact ⟨m, he⟩
    · rintro ⟨m, hm⟩
      exact ⟨_, hm⟩
  rw [Outcome.mapM_error_iff]
  refine exists_congr fun f => ?_
  rw [isFirst_congr fun f hf _ => hrefuses f hf]
  refine and_congr_right fun hfirst => ?_
  obtain ⟨_, _, hmem, ⟨m, hm, hpadded⟩, _⟩ := hfirst
  rw [hstop f (by simp [hmem])]
  constructor
  · exact And.left
  · intro hn
    rw [hm, FieldType.named.injEq] at hn
    exact ⟨by rw [hm, hn], by rwa [← hn]⟩

namespace Declaration

theorem typeName_stops_iff {id : String} :
    typeName id = .error (.noIdentifier n) ↔ Ident.IsPadded id ∧ n = id := by
  rw [Ident.isPadded_iff]
  unfold typeName
  cases Ident.accepts id <;> cases Ident.ofText? id <;> simp [Outcome.fail, eq_comm]

section shapes
variable {i : Ident}

/-- The declaration of an object, or of an array of objects, has their fields. -/
theorem ofSchema_of_fields {properties : Table Property} (hname : typeName s.id = .ok i)
    (hshape : s.shape = .ok (.object properties) ∨ s.shape = .ok (.records properties)) :
    ofSchema s = do
      let fields ← Field.ofSchema s
      return ⟨i, .fields (← fields.mapM FieldDecl.ofField)⟩ := by
  rcases hshape with hshape | hshape
  all_goals
    rw [ofSchema, Field.ofSchema, hname, hshape]
    rfl

theorem ofSchema_stops_iff_of_fields {properties : Table Property}
    (hname : typeName s.id = .ok i)
    (hshape : s.shape = .ok (.object properties) ∨ s.shape = .ok (.records properties)) :
    ofSchema s = .error (.noIdentifier n) ↔
      ∃ fields, Field.ofSchema s = .ok fields ∧
        fields.mapM FieldDecl.ofField = .error (.noIdentifier n) := by
  rw [ofSchema_of_fields hname hshape, Outcome.bind_error_iff]
  simp [Field.ofSchema_ne_noIdentifier, Outcome.bind_error_iff, pure, Except.pure]

/-- The declaration of a list wraps the type of an array of its items. -/
theorem ofSchema_of_list {items : Property} (hshape : s.shape = .ok (.list items)) :
    ofSchema s = do
      let name ← typeName s.id
      let type ← (FieldType.ofProperty s.id FieldType.listElement (.arrayOf items)).mapError
        Failure.error
      return ⟨name, .wrapper (← type.expr)⟩ := by
  rw [ofSchema, hshape]
  rfl

theorem ofSchema_stops_iff_of_list {items : Property} (hname : typeName s.id = .ok i)
    (hshape : s.shape = .ok (.list items)) :
    ofSchema s = .error (.noIdentifier n) ↔
      ∃ t, FieldType.ofProperty s.id FieldType.listElement (.arrayOf items) = .ok t ∧
        t.expr = .error (.noIdentifier n) := by
  rw [ofSchema_of_list hshape, hname]
  simp [Outcome.bind_error_iff, Outcome.mapError_error_iff, Outcome.mapError_ok_iff, pure,
    Except.pure]

/-- The declaration of a type with a name stops at a field, or at the elements of a list. -/
theorem ofSchema_stops_iff (hname : typeName s.id = .ok i) :
    ofSchema s = .error (.noIdentifier n) ↔
      (∃ fields f, Field.ofSchema s = .ok fields ∧
        IsFirst (fun _ f => f.type.IsPadded) fields f ∧ f.type.core = .named n) ∨
      ∃ items t, s.shape = .ok (.list items) ∧
        FieldType.ofProperty s.id FieldType.listElement (.arrayOf items) = .ok t ∧
        t.core = .named n ∧ Ident.IsPadded n := by
  cases hshape : s.shape with
  | error e =>
    have hdecl : ofSchema s = Outcome.fail (.shape e) := by
      rw [ofSchema, hname, hshape]
      rfl
    have hfields : Field.ofSchema s = Outcome.fail (.shape e) := by
      rw [Field.ofSchema, hshape]
      rfl
    simp [hdecl, hfields, Outcome.fail]
  | ok shape =>
  cases shape with
  | object properties | records properties =>
    have hfields : s.shape = .ok (.object properties) ∨ s.shape = .ok (.records properties) := by
      simp [hshape]
    rw [ofSchema_stops_iff_of_fields hname hfields]
    simp only [Except.ok.injEq, reduceCtorEq, false_and, exists_false, or_false, exists_and_left]
    exact exists_congr fun fields => and_congr_right FieldDecl.mapM_ofField_stops_iff
  | list items =>
    have hfields : Field.ofSchema s = .ok [] := by
      rw [Field.ofSchema, hshape]
      rfl
    rw [ofSchema_stops_iff_of_list hname hshape, hfields]
    simp only [Except.ok.injEq, exists_and_left, exists_eq_left', not_isFirst_nil, false_and,
      exists_false, false_or, Shape.list.injEq]
    exact exists_congr fun t => and_congr_right FieldType.expr_stops_iff
  | other =>
    have hfields : Field.ofSchema s = .ok [] := by
      rw [Field.ofSchema, hshape]
      rfl
    have hdecl : ofSchema s = .ok ⟨i, .bare⟩ := by
      rw [ofSchema, hname, hshape]
      rfl
    simp [hdecl, hfields, not_isFirst_nil]

end shapes

end Declaration

theorem TypeUnit.ofSchema_stops_iff :
    ofSchema c s = .error (.noIdentifier n) ↔ s.StopsAt c n := by
  constructor
  · intro h
    rcases Outcome.bind_error_iff.1 h with hname | ⟨i, hname, h⟩
    · obtain ⟨hpadded, rfl⟩ := Declaration.typeName_stops_iff.1 hname
      exact .name hpadded
    rcases Outcome.bind_error_iff.1 h with hdoc | ⟨doc, hdoc, h⟩
    · obtain ⟨e, _, he⟩ := Outcome.mapError_error_iff.1 hdoc
      cases he
    have hdoc := Outcome.mapError_ok_iff.1 hdoc
    rcases Outcome.bind_error_iff.1 h with hdecl | ⟨decl, _, h⟩
    · rcases (Declaration.ofSchema_stops_iff hname).1 hdecl with
        ⟨fields, f, hfields, hfirst, hcore⟩ | ⟨items, t, hshape, ht, hcore, hpadded⟩
      · exact .field hname hdoc hfields hfirst hcore
      · exact .element hname hdoc hshape ht hcore hpadded
    -- The accessor needs no identifier but those of the fields, and these are resolved by now.
    exfalso
    dsimp only at h
    split at h
    · simp [Outcome.bind_error_iff, Field.ofSchema_ne_noIdentifier, pure, Except.pure] at h
    · cases h
  · intro h
    cases h with
    | name padded =>
      exact Outcome.bind_error_iff.2 (Or.inl (Declaration.typeName_stops_iff.2 ⟨padded, rfl⟩))
    | field typeName_eq doc_eq fields_eq first core_eq =>
      have hdecl := (Declaration.ofSchema_stops_iff typeName_eq).2
        (Or.inl ⟨_, _, fields_eq, first, core_eq⟩)
      simp [ofSchema, typeName_eq, doc_eq, hdecl, bind, Except.bind, Except.mapError]
    | element typeName_eq doc_eq shape_eq type_eq core_eq padded =>
      have hdecl := (Declaration.ofSchema_stops_iff typeName_eq).2
        (Or.inr ⟨_, _, shape_eq, type_eq, core_eq, padded⟩)
      simp [ofSchema, typeName_eq, doc_eq, hdecl, bind, Except.bind, Except.mapError]

namespace SourceModule

theorem ofDocument_error_iff : ofDocument c d = .error e ↔ unitsOf c d = .error e := by
  simp [ofDocument, Outcome.bind_error_iff, pure, Except.pure]

/-- Generation stops without an error at padded names only: at the one that the first refused schema
needs, when all schemas have a shape and a name of their own. -/
theorem ofDocument_stops_iff :
    ofDocument c d = .error (.noIdentifier n) ↔
      Ident.IsPadded n ∧ ∃ nested, nestedSchemas d.schemas.values = .ok nested ∧
        nameClash? [] (d.schemas.values ++ nested) = none ∧
        ∃ s, IsFirst (fun _ => Refuses (TypeUnit.ofSchema c)) (d.schemas.values ++ nested) s ∧
          s.StopsAt c n := by
  rw [ofDocument_error_iff]
  constructor
  · intro h
    have hdecides := decides_unitsOf c d
    generalize unitsOf c d = r at h hdecides
    cases hdecides with
    | shapeless => cases h
    | clash => cases h
    | complete => cases h
    | failure _ nested_eq nodup_ids no_marker first error =>
      cases h
      have hs := TypeUnit.ofSchema_stops_iff.1 error
      have hclash := nameClash?_eq_none_iff.2
        ⟨nodup_ids, fun s hs => ⟨no_marker s hs, List.not_mem_nil⟩⟩
      exact ⟨hs.isPadded, _, nested_eq, hclash, _, first, hs⟩
  · rintro ⟨_, nested, hnested, hclash, s, hfirst, hs⟩
    rw [unitsOf_of_no_clash hnested hclash]
    exact Outcome.mapM_error_iff.2 ⟨s, hfirst, TypeUnit.ofSchema_stops_iff.2 hs⟩

/-- A document with a schema whose name begins with a blank. -/
def spacedDocument : Document where
  name := "youtube"
  version := "v3"
  schemas := [(" Video", { id := " Video", kind := some .object })]

/-- The text of this document is read, and generation stops at the name. -/
theorem stops_at_spaced_name :
    Ident.accepts " Video" = true ∧
      (do
        let d ← Document.load "youtube.json" (some spacedDocument.encode.render)
        let c ← Run.context d
        ofDocument c d) = .error (.noIdentifier " Video") := by
  decide +kernel

end SourceModule

end ApiTypes

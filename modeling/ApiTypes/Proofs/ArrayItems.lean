import ApiTypes.Code.Header
import ApiTypes.Proofs.DerivedNames
import ApiTypes.Proofs.MappableProperty
import ApiTypes.Proofs.ObjectPositions

/-!
What the elements of an array schema are taken for. The type mapping and the search for nested
schemas look for a reference first, and take elements for anonymous objects only without one. The
shape of the schema looks for fields alone, so that elements with a reference and fields are
declared as records, and the reference is lost.
-/
namespace ApiTypes
open Naming

/-- The type mapping takes the descriptor for an anonymous object: it is named after the schema and
the property, whatever these are. -/
def FieldType.TakesForObject (p : Property) : Prop :=
  ∀ schema property, ofDescriptor schema property false p =
    if Ident.accepts (nestedTypeName schema property) then
      .ok (.named (nestedTypeName schema property))
    else .error (.unmappable schema property (.badNestedName (nestedTypeName schema property)))

/-- The search for nested schemas takes the descriptor itself for an anonymous object. -/
def Property.IsFoundAsObject (p : Property) : Prop :=
  p.anonymousObject? = some p

variable {p items : Property} {s : SchemaNode} {target : String}

theorem FieldType.takesForObject_iff : TakesForObject p ↔ p.IsAnonymousObject := by
  constructor
  · intro h
    have hvideo : ofDescriptor "Video" "size" false p = .ok (.named "VideoSize") :=
      (h "Video" "size").trans (by decide)
    have hcore := core_ofDescriptor hvideo
    cases hobject : p.anonymousObject? with
    | some o =>
      rw [hobject] at hcore
      cases hcore.2
      obtain ⟨kind_eq, no_reference, has_fields⟩ := Property.kind_anonymousObject? hobject
      exact ⟨no_reference, kind_eq, Option.isSome_iff_exists.1 has_fields⟩
    | none =>
      -- a reference may have the derived name by chance, but not under another schema
      rw [hobject] at hcore
      obtain ⟨o, ho, href⟩ := hcore "VideoSize" rfl
      cases ho
      have hchannel := h "Channel" "size"
      simp only [ofDescriptor_reference href, Bool.false_and, Bool.false_eq_true, if_false]
        at hchannel
      exact absurd hchannel (by decide)
  · intro h schema property
    have has_fields := Option.isSome_iff_exists.2 h.has_fields
    rw [ofDescriptor_object h.no_reference h.kind_eq has_fields]
    simp

theorem Property.isFoundAsObject_iff : p.IsFoundAsObject ↔ p.IsAnonymousObject := by
  refine ⟨fun h => ?_, Property.anonymousObject?_of_isAnonymousObject⟩
  obtain ⟨kind_eq, no_reference, has_fields⟩ := Property.kind_anonymousObject? h
  exact ⟨no_reference, kind_eq, Option.isSome_iff_exists.1 has_fields⟩

theorem Property.isNestedObject_iff :
    p.isNestedObject = true ↔ p.kind = some .object ∧ ∃ fields, p.properties = some fields := by
  rw [isNestedObject, Bool.and_eq_true, beq_iff_eq, Option.isSome_iff_exists]

theorem Property.isAnonymousObject_iff :
    p.IsAnonymousObject ↔ p.reference = none ∧ p.isNestedObject = true := by
  rw [isNestedObject_iff]
  exact ⟨fun h => ⟨h.no_reference, h.kind_eq, h.has_fields⟩, fun ⟨h, h', h''⟩ => ⟨h, h', h''⟩⟩

namespace SchemaNode
variable (hkind : s.kind = some .array) (hitems : s.items = some items)
include hkind hitems

theorem exists_shape_eq_records (h : items.isNestedObject = true) :
    ∃ fields, items.properties = some fields ∧ s.shape = .ok (.records fields) := by
  obtain ⟨hobject, fields, hfields⟩ := Property.isNestedObject_iff.1 h
  exact ⟨fields, hfields, by simp [shape, hkind, hitems, hfields, hobject]⟩

theorem shape_eq_list (h : items.isNestedObject = false) : s.shape = .ok (.list items) := by
  cases hfields : items.properties with
  | none => simp [shape, hkind, hitems, hfields]
  | some fields =>
    have hobject : items.kind ≠ some .object := by
      intro hobject
      rw [Property.isNestedObject_iff.2 ⟨hobject, fields, hfields⟩] at h
      cases h
    simp [shape, hkind, hitems, hfields, hobject]

theorem shape_eq_records_iff :
    (∃ fields, s.shape = .ok (.records fields)) ↔ items.isNestedObject = true := by
  constructor
  · rintro ⟨fields, hshape⟩
    by_contra hnested
    rw [Bool.not_eq_true] at hnested
    rw [shape_eq_list hkind hitems hnested] at hshape
    cases hshape
  · intro h
    obtain ⟨fields, _, hshape⟩ := exists_shape_eq_records hkind hitems h
    exact ⟨fields, hshape⟩

theorem underlyingType?_of_reference (href : items.reference = some target)
    (haccepted : Ident.accepts target = true) :
    Header.underlyingType? s =
      .ok (some (.list (.named (if items.isNestedObject then s.id else target)))) := by
  cases h : items.isNestedObject with
  | true =>
    obtain ⟨fields, _, hshape⟩ := exists_shape_eq_records hkind hitems h
    rw [Header.underlyingType?, hshape]
    rfl
  | false =>
    have hmapped : FieldType.ofProperty s.id FieldType.listElement s.asProperty =
        .ok (.list (.named target)) := by
      rw [FieldType.ofProperty, FieldType.ofDescriptor_array rfl hkind hitems,
        FieldType.ofDescriptor_reference href, if_pos haccepted]
      rfl
    rw [Header.underlyingType?, shape_eq_list hkind hitems h]
    simp only [Except.mapError, bind, Except.bind, hmapped]
    rfl

/-- The shape takes the elements of an array for records whenever they are objects with fields, the
type mapping and the search for nested schemas only when they are no reference besides. So the three
agree exactly on elements that are not both, and it is there that a schema with a reference in its
elements is a list of what the reference means; elsewhere it is a list of itself. -/
theorem shape_agrees_iff :
    ((∃ fields, s.shape = .ok (.records fields)) ↔ items.isNestedObject = true) ∧
      (FieldType.TakesForObject items ↔
        items.reference = none ∧ items.isNestedObject = true) ∧
      (items.IsFoundAsObject ↔ items.reference = none ∧ items.isNestedObject = true) ∧
      (((∃ fields, s.shape = .ok (.records fields)) ↔
          FieldType.TakesForObject items ∧ items.IsFoundAsObject) ↔
        ¬ (items.reference.isSome = true ∧ items.isNestedObject = true)) ∧
      ∀ target, items.reference = some target → Ident.accepts target = true →
        (s.shape = .ok (.list items) ↔ items.isNestedObject = false) ∧
          Header.underlyingType? s =
            .ok (some (.list (.named (if items.isNestedObject then s.id else target)))) := by
  have hrecords := shape_eq_records_iff hkind hitems
  have htakes : FieldType.TakesForObject items ↔
      items.reference = none ∧ items.isNestedObject = true :=
    FieldType.takesForObject_iff.trans Property.isAnonymousObject_iff
  have hfound : items.IsFoundAsObject ↔
      items.reference = none ∧ items.isNestedObject = true :=
    Property.isFoundAsObject_iff.trans Property.isAnonymousObject_iff
  refine ⟨hrecords, htakes, hfound, ?_, fun target href haccepted => ⟨?_, ?_⟩⟩
  · rw [hrecords, htakes, hfound, and_self, ← Option.not_isSome_iff_eq_none]
    tauto
  · constructor
    · intro hlist
      by_contra hnested
      obtain ⟨fields, _, hshape⟩ :=
        exists_shape_eq_records hkind hitems (Bool.not_eq_false _ ▸ hnested)
      cases hlist.symm.trans hshape
    · exact shape_eq_list hkind hitems
  · exact underlyingType?_of_reference hkind hitems href haccepted

omit hkind hitems

/-- An array schema with the given elements. -/
def rows (items : Property) : SchemaNode :=
  { id := "Rows", kind := some .array, items := some items }

/-- Objects with a field, and a reference besides. -/
def referredRow : Property :=
  { Property.ofFields [("x", .of .string)] with reference := some "Row" }

theorem shape_agrees_rows :
    Ident.accepts "Row" = true ∧
      (rows (.referTo "Row")).shape = .ok (.list (.referTo "Row")) ∧
      Header.underlyingType? (rows (.referTo "Row")) = .ok (some (.list (.named "Row"))) := by
  have haccepted : Ident.accepts "Row" = true := by decide
  obtain ⟨_, _, _, _, hreferred⟩ := shape_agrees_iff (s := rows (.referTo "Row")) rfl rfl
  obtain ⟨hshape, htype⟩ := hreferred "Row" rfl haccepted
  exact ⟨haccepted, hshape.2 rfl, htype⟩

theorem shape_disagrees_rows :
    ¬ ((∃ fields, (rows referredRow).shape = .ok (.records fields)) ↔
        FieldType.TakesForObject referredRow ∧ referredRow.IsFoundAsObject) ∧
      (rows referredRow).shape ≠ .ok (.list referredRow) ∧
      Header.underlyingType? (rows referredRow) ≠ .ok (some (.list (.named "Row"))) := by
  refine ⟨fun h => ?_, ?_, ?_⟩
  · obtain ⟨_, hfound⟩ := h.1 ⟨_, rfl⟩
    cases (Property.isFoundAsObject_iff.1 hfound).no_reference
  · intro hshape
    cases hshape
  · have htype := underlyingType?_of_reference (s := rows referredRow) rfl rfl rfl (by decide)
    rw [htype]
    decide

end SchemaNode

end ApiTypes

import ApiTypes.Proofs.MadeNames

/-!
Which descriptors a type expresses, and what is said of the others. The mapping goes from an array
to its elements and from a map to its values, and stops at the first descriptor that is at fault
itself; the error tells of that one, under the names of the schema and the property it began with.
-/
namespace ApiTypes
open Naming

namespace Property

/-- The descriptor that the mapping goes on with: the elements of an array or the values of a map.
It never looks behind a reference, nor among the fields of an object. -/
def inner? (p : Property) : Option Property :=
  match p.reference, p.kind, p.properties with
  | none, some .array, _ => p.items
  | none, some .object, none => p.additional
  | _, _, _ => none

theorem inner?_eq_some_iff {p q : Property} :
    p.inner? = some q ↔
      p.reference = none ∧ p.kind = some .array ∧ p.items = some q ∨
        p.reference = none ∧ p.kind = some .object ∧ p.properties = none ∧
          p.additional = some q := by
  unfold inner?
  split <;> simp_all

theorem sizeOf_inner? {p q : Property} (h : p.inner? = some q) : sizeOf q < sizeOf p := by
  obtain ⟨kind, reference, description, format, required, items, additional, properties⟩ := p
  rcases inner?_eq_some_iff.1 h with ⟨rfl, rfl, rfl⟩ | ⟨rfl, rfl, rfl, rfl⟩ <;>
    simp only [mk.sizeOf_spec, Option.some.sizeOf_spec] <;> omega

/-- The descriptors that the mapping may look at, in the order it reaches them. -/
def visited (p : Property) : List Property :=
  p :: match _h : p.inner? with
    | none => []
    | some q => q.visited
termination_by sizeOf p
decreasing_by exact sizeOf_inner? ‹_›

theorem visited_of_none {p : Property} (h : p.inner? = none) : p.visited = [p] := by
  unfold visited
  split
  · rfl
  · next hq => simp [h] at hq

theorem visited_of_some {p q : Property} (h : p.inner? = some q) :
    p.visited = p :: q.visited := by
  rw [visited]
  split
  · next hq => simp [h] at hq
  · next hq =>
    rw [h, Option.some.injEq] at hq
    rw [hq]

/-- Induction along the descent: from what an array or a map holds to the array or map itself. -/
@[elab_as_elim]
theorem inner_induction {motive : Property → Prop}
    (leaf : ∀ p, p.inner? = none → motive p)
    (inner : ∀ p q, p.inner? = some q → motive q → motive p) (p : Property) : motive p := by
  cases h : p.inner? with
  | none => exact leaf p h
  | some q => exact inner p q h (inner_induction leaf inner q)
termination_by sizeOf p
decreasing_by exact sizeOf_inner? h

end Property

namespace FieldType

/-- The formats of a numeric type. Without a format it has a default. -/
def knownFormats : JsonType → List String
  | .integer => ["int32", "uint32", "int64", "uint64"]
  | .number => ["double", "float"]
  | _ => []

/-- Some type expresses the descriptor, when it is that of the property of the schema. -/
inductive Mappable (schema property : String) : Property → Prop
  | reference {p : Property} {target : String} (reference_eq : p.reference = some target)
      (accepted : Ident.accepts target = true) : Mappable schema property p
  | array {p items : Property} (no_reference : p.reference = none)
      (kind_eq : p.kind = some .array) (items_eq : p.items = some items)
      (below : Mappable schema property items) : Mappable schema property p
  | object {p : Property} (no_reference : p.reference = none) (kind_eq : p.kind = some .object)
      (has_fields : p.properties.isSome = true)
      (accepted : Ident.accepts (nestedTypeName schema property) = true) :
      Mappable schema property p
  | map {p values : Property} (no_reference : p.reference = none) (kind_eq : p.kind = some .object)
      (no_fields : p.properties = none) (additional_eq : p.additional = some values)
      (below : Mappable schema property values) : Mappable schema property p
  | plain {p : Property} {kind : JsonType} (no_reference : p.reference = none)
      (kind_eq : p.kind = some kind) (plain : kind ∈ [.boolean, .string, .any]) :
      Mappable schema property p
  | numeric {p : Property} {kind : JsonType} (no_reference : p.reference = none)
      (kind_eq : p.kind = some kind) (numeric : kind ∈ [.integer, .number])
      (known : ∀ format, p.format = some format → format ∈ knownFormats kind) :
      Mappable schema property p

/-- No type expresses the descriptor, and not because of what it holds. -/
def IsAtFault (schema property : String) (p : Property) : Prop :=
  ¬ Mappable schema property p ∧ ∀ q, p.inner? = some q → Mappable schema property q

/-- The error that tells of a descriptor at fault. -/
inductive Blames (schema property : String) (p : Property) : GenerationError → Prop
  | reference {target : String} (reference_eq : p.reference = some target) :
      Blames schema property p (.unmappable schema property (.badReference target))
  | untyped (no_reference : p.reference = none) (no_kind : p.kind = none) :
      Blames schema property p (.unmappable schema property .untyped)
  | array (no_reference : p.reference = none) (kind_eq : p.kind = some .array) :
      Blames schema property p (.unmappable schema property .arrayWithoutItems)
  | object (no_reference : p.reference = none) (kind_eq : p.kind = some .object)
      (has_fields : p.properties.isSome = true) :
      Blames schema property p
        (.unmappable schema property (.badNestedName (nestedTypeName schema property)))
  | bare (no_reference : p.reference = none) (kind_eq : p.kind = some .object)
      (no_fields : p.properties = none) :
      Blames schema property p (.unmappable schema property .bareObject)
  | numeric {kind : JsonType} {format : String} (no_reference : p.reference = none)
      (kind_eq : p.kind = some kind) (numeric : kind ∈ [.integer, .number])
      (format_eq : p.format = some format) :
      Blames schema property p (.unknownFormat schema property format)

/-- The descriptor is a number with a format that no number has. A reference is none, whatever type
it has besides. -/
def HasOtherFormat (p : Property) : Prop :=
  p.reference = none ∧ ∃ kind ∈ [JsonType.integer, .number], p.kind = some kind ∧
    ∃ format ∉ knownFormats kind, p.format = some format

variable {schema property : String} {mayBeOptional : Bool} {p q : Property} {kind : JsonType}
  {format : Option String} {e : GenerationError}

theorem ofScalar_error_iff :
    ofScalar schema property kind format = .error e ↔
      kind ∈ [JsonType.array, .object] ∧ e = .unmappable schema property (.notScalar kind) ∨
        kind ∈ [JsonType.integer, .number] ∧
          ∃ f ∉ knownFormats kind, format = some f ∧ e = .unknownFormat schema property f := by
  cases kind with
  | integer | number =>
    simp only [ofScalar]
    split <;> simp_all [knownFormats, eq_comm]
  | _ => simp [ofScalar, eq_comm]

section equations

theorem ofDescriptor_reference {target : String} (reference_eq : p.reference = some target) :
    ofDescriptor schema property mayBeOptional p =
      if Ident.accepts target then
        .ok (if mayBeOptional && !p.required then .option (.named target) else .named target)
      else .error (.unmappable schema property (.badReference target)) := by
  cases p
  cases reference_eq
  rfl

variable (no_reference : p.reference = none)
include no_reference

theorem ofDescriptor_array (kind_eq : p.kind = some .array) (items_eq : p.items = some q) :
    ofDescriptor schema property mayBeOptional p =
      .list <$> ofDescriptor schema property false q := by
  cases p
  cases no_reference
  cases kind_eq
  cases items_eq
  rfl

theorem ofDescriptor_object (kind_eq : p.kind = some .object)
    (has_fields : p.properties.isSome = true) :
    ofDescriptor schema property mayBeOptional p =
      if Ident.accepts (nestedTypeName schema property) then
        .ok (if mayBeOptional && !p.required then .option (.named (nestedTypeName schema property))
          else .named (nestedTypeName schema property))
      else .error (.unmappable schema property (.badNestedName (nestedTypeName schema property))) := by
  cases p
  cases no_reference
  cases kind_eq
  obtain ⟨fields, rfl⟩ := Option.isSome_iff_exists.1 has_fields
  rfl

theorem ofDescriptor_map (kind_eq : p.kind = some .object) (no_fields : p.properties = none)
    (additional_eq : p.additional = some q) :
    ofDescriptor schema property mayBeOptional p =
      .map <$> ofDescriptor schema property false q := by
  cases p
  cases no_reference
  cases kind_eq
  cases no_fields
  cases additional_eq
  rfl

theorem ofDescriptor_scalar (kind_eq : p.kind = some kind)
    (hkind : kind ∉ [JsonType.array, .object]) :
    ofDescriptor schema property mayBeOptional p =
      (fun t => if mayBeOptional && !p.required then .option t else t) <$>
        ofScalar schema property kind p.format := by
  cases p
  cases no_reference
  cases kind_eq
  cases kind <;> simp at hkind <;> rfl

end equations

theorem not_mem_structured_iff : kind ∉ [JsonType.array, .object] ↔
    kind ∈ [JsonType.boolean, .string, .any] ∨ kind ∈ [JsonType.integer, .number] := by
  cases kind <;> simp

theorem exists_ofScalar (hkind : kind ∉ [JsonType.array, .object])
    (hknown : kind ∈ [JsonType.integer, .number] → ∀ f, format = some f → f ∈ knownFormats kind) :
    ∃ t, ofScalar schema property kind format = .ok t := by
  cases hresult : ofScalar schema property kind format with
  | ok t => exact ⟨t, rfl⟩
  | error e =>
    rcases ofScalar_error_iff.1 hresult with ⟨hmem, _⟩ | ⟨hnumeric, f, hunknown, hformat, _⟩
    · exact absurd hmem hkind
    · exact absurd (hknown hnumeric f hformat) hunknown

theorem Mappable.exists_ofDescriptor (h : Mappable schema property p) (mayBeOptional : Bool) :
    ∃ t, ofDescriptor schema property mayBeOptional p = .ok t := by
  induction h generalizing mayBeOptional with
  | reference reference_eq accepted =>
    rw [ofDescriptor_reference reference_eq, if_pos accepted]
    exact ⟨_, rfl⟩
  | array no_reference kind_eq items_eq _ ih =>
    rw [ofDescriptor_array no_reference kind_eq items_eq]
    obtain ⟨t, ht⟩ := ih false
    exact ⟨.list t, Outcome.map_ok_iff.2 ⟨t, ht, rfl⟩⟩
  | object no_reference kind_eq has_fields accepted =>
    rw [ofDescriptor_object no_reference kind_eq has_fields, if_pos accepted]
    exact ⟨_, rfl⟩
  | map no_reference kind_eq no_fields additional_eq _ ih =>
    rw [ofDescriptor_map no_reference kind_eq no_fields additional_eq]
    obtain ⟨t, ht⟩ := ih false
    exact ⟨.map t, Outcome.map_ok_iff.2 ⟨t, ht, rfl⟩⟩
  | @plain p kind no_reference kind_eq plain =>
    have hkind := not_mem_structured_iff.2 (Or.inl plain)
    have hnumeric : kind ∉ [JsonType.integer, .number] := by
      cases kind <;> simp at plain ⊢
    rw [ofDescriptor_scalar no_reference kind_eq hkind]
    obtain ⟨t, ht⟩ := exists_ofScalar hkind (absurd · hnumeric)
    exact ⟨_, Outcome.map_ok_iff.2 ⟨t, ht, rfl⟩⟩
  | @numeric p kind no_reference kind_eq numeric known =>
    have hkind := not_mem_structured_iff.2 (Or.inr numeric)
    rw [ofDescriptor_scalar no_reference kind_eq hkind]
    obtain ⟨t, ht⟩ := exists_ofScalar hkind fun _ => known
    exact ⟨_, Outcome.map_ok_iff.2 ⟨t, ht, rfl⟩⟩

theorem mappable_of_ofDescriptor {t : FieldType}
    (h : ofDescriptor schema property mayBeOptional p = .ok t) : Mappable schema property p := by
  fun_induction ofDescriptor schema property mayBeOptional p generalizing t with
  | case1 => exact .reference rfl ‹_›
  | case5 _ _ _ _ _ _ element ih =>
    obtain ⟨inner, hinner, _⟩ := Outcome.map_ok_iff.1 h
    exact .array rfl rfl rfl (ih hinner)
  | case6 => exact .object rfl rfl rfl ‹_›
  | case9 _ _ _ _ _ value ih =>
    obtain ⟨inner, hinner, _⟩ := Outcome.map_ok_iff.1 h
    exact .map rfl rfl rfl rfl (ih hinner)
  | case10 _ _ _ _ _ _ _ _ kind harray =>
    have hobject : kind ≠ .object := ‹_›
    obtain ⟨inner, hinner, _⟩ := Outcome.map_ok_iff.1 h
    have hkind : kind ∉ [JsonType.array, .object] := by simpa using ⟨harray, hobject⟩
    rcases not_mem_structured_iff.1 hkind with hplain | hnumeric
    · exact .plain rfl rfl hplain
    · refine .numeric rfl rfl hnumeric fun f hf => ?_
      by_contra hunknown
      have herror : ofScalar schema property kind _ = .error (.unknownFormat schema property f) :=
        ofScalar_error_iff.2 (Or.inr ⟨hnumeric, f, hunknown, hf, rfl⟩)
      cases hinner.symm.trans herror
  | _ => cases h

/-- A descriptor that the mapping does not go on from is blamed for the error itself. -/
theorem blames_of_ofDescriptor (h : ofDescriptor schema property mayBeOptional p = .error e)
    (hinner : p.inner? = none) : Blames schema property p e := by
  fun_induction ofDescriptor schema property mayBeOptional p with
  | case1 | case6 => cases h
  | case5 | case9 => cases hinner
  | case2 =>
    cases h
    exact .reference rfl
  | case3 =>
    cases h
    exact .untyped rfl rfl
  | case4 =>
    cases h
    exact .array rfl rfl
  | case7 =>
    cases h
    exact .object rfl rfl rfl
  | case8 =>
    cases h
    exact .bare rfl rfl rfl
  | case10 _ _ _ _ _ _ _ _ kind harray hobject =>
    rcases ofScalar_error_iff.1 (Outcome.map_error_iff.1 h) with ⟨hmem, _⟩ | ⟨hnumeric, f, _, hf, rfl⟩
    · exact (List.mem_pair.1 hmem).elim (absurd · harray) (absurd · hobject)
    · exact .numeric rfl rfl hnumeric hf

/-- An array or a map is mapped as what it holds is. -/
theorem exists_ofDescriptor_eq_map (h : p.inner? = some q) (mayBeOptional : Bool) :
    ∃ around : FieldType → FieldType, ofDescriptor schema property mayBeOptional p =
      around <$> ofDescriptor schema property false q := by
  rcases Property.inner?_eq_some_iff.1 h with
    ⟨no_reference, kind_eq, items_eq⟩ | ⟨no_reference, kind_eq, no_fields, additional_eq⟩
  · exact ⟨.list, ofDescriptor_array no_reference kind_eq items_eq⟩
  · exact ⟨.map, ofDescriptor_map no_reference kind_eq no_fields additional_eq⟩

theorem exists_ofDescriptor_iff (mayBeOptional : Bool) :
    (∃ t, ofDescriptor schema property mayBeOptional p = .ok t) ↔ Mappable schema property p :=
  ⟨fun ⟨_, ht⟩ => mappable_of_ofDescriptor ht, fun h => h.exists_ofDescriptor mayBeOptional⟩

theorem not_mappable_of_error (h : ofDescriptor schema property mayBeOptional p = .error e) :
    ¬ Mappable schema property p := by
  intro hp
  obtain ⟨t, ht⟩ := hp.exists_ofDescriptor mayBeOptional
  rw [h] at ht
  cases ht

theorem Blames.eq {e' : GenerationError} (h : Blames schema property p e)
    (h' : Blames schema property p e') : e = e' := by
  cases h <;> cases h' <;> grind

theorem mappable_inner_iff (h : p.inner? = some q) :
    Mappable schema property p ↔ Mappable schema property q := by
  obtain ⟨around, haround⟩ : ∃ around : FieldType → FieldType,
      ofDescriptor schema property false p = around <$> ofDescriptor schema property false q :=
    exists_ofDescriptor_eq_map h false
  rw [← exists_ofDescriptor_iff false, ← exists_ofDescriptor_iff false, haround]
  simp [Outcome.map_ok_iff]

/-- The mapping fails at the first descriptor at fault among those it reaches, and tells of it. -/
theorem ofDescriptor_error_iff (mayBeOptional : Bool) :
    ofDescriptor schema property mayBeOptional p = .error e ↔
      ∃ q, IsFirst (fun _ => IsAtFault schema property) p.visited q ∧
        Blames schema property q e := by
  induction p using Property.inner_induction generalizing mayBeOptional with
  | leaf p hinner =>
    rw [Property.visited_of_none hinner]
    cases hresult : ofDescriptor schema property mayBeOptional p with
    | ok t =>
      have hsound : ¬ IsAtFault schema property p := fun hfault =>
        hfault.1 (mappable_of_ofDescriptor hresult)
      simp [isFirst_cons_iff (P := fun _ => IsAtFault schema property) hsound, not_isFirst_nil]
    | error e' =>
      have hfault : IsAtFault schema property p :=
        ⟨not_mappable_of_error hresult, by simp [hinner]⟩
      have hblames : Blames schema property p e' := blames_of_ofDescriptor hresult hinner
      simp only [isFirst_cons_of_meets (P := fun _ => IsAtFault schema property) hfault,
        exists_eq_left, Except.error.injEq]
      exact ⟨fun he => he ▸ hblames, hblames.eq⟩
  | inner p q hinner ih =>
    rw [Property.visited_of_some hinner]
    have hsound : ¬ IsAtFault schema property p := fun hfault =>
      hfault.1 ((mappable_inner_iff hinner).2 (hfault.2 q hinner))
    obtain ⟨around, haround⟩ := exists_ofDescriptor_eq_map hinner mayBeOptional
    rw [haround, Outcome.map_error_iff, ih false]
    simp only [isFirst_cons_iff (P := fun _ => IsAtFault schema property) hsound]

/-- Of the errors for descriptors at fault, those for unknown formats tell of numbers. -/
theorem Blames.hasOtherFormat_iff (h : Blames schema property p e)
    (hfault : IsAtFault schema property p) :
    HasOtherFormat p ↔ ∃ format, e = .unknownFormat schema property format := by
  constructor
  · rintro ⟨no_reference, kind, hkind, kind_eq, format, -, format_eq⟩
    exact ⟨format, h.eq (.numeric no_reference kind_eq hkind format_eq)⟩
  · rintro ⟨format, rfl⟩
    cases h with
    | @numeric kind _ no_reference kind_eq numeric format_eq =>
      refine ⟨no_reference, kind, numeric, kind_eq, format, fun hknown => hfault.1 ?_, format_eq⟩
      refine .numeric no_reference kind_eq numeric fun f hf => ?_
      rw [format_eq, Option.some.injEq] at hf
      exact hf ▸ hknown

theorem Blames.unmappable_iff (h : Blames schema property p e) :
    (¬ ∃ format, e = .unknownFormat schema property format) ↔
      ∃ reason, e = .unmappable schema property reason ∧ ∀ kind, reason ≠ .notScalar kind := by
  cases h <;> simp

/-- The mapping accepts exactly the descriptors that a type expresses. Otherwise the error names the
schema and the property and tells of the first descriptor at fault: of its format if it is a number,
and else of its shape, where it is never said that a type is no scalar. -/
theorem ofProperty_maps_mappable (schema property : String) (p : Property) :
    ((∃ t, ofProperty schema property p = .ok t) ↔ Mappable schema property p) ∧
      ∀ e, ofProperty schema property p = .error e ↔
        ∃ q, IsFirst (fun _ => IsAtFault schema property) p.visited q ∧
          Blames schema property q e ∧
          (HasOtherFormat q ↔ ∃ format, e = .unknownFormat schema property format) ∧
          (¬ HasOtherFormat q ↔
            ∃ reason, e = .unmappable schema property reason ∧ ∀ kind, reason ≠ .notScalar kind) := by
  refine ⟨exists_ofDescriptor_iff true, fun e => (ofDescriptor_error_iff true).trans ?_⟩
  refine exists_congr fun q => and_congr_right fun hfirst => ?_
  have hfault : IsAtFault schema property q := by
    obtain ⟨_, _, _, hfault, _⟩ := hfirst
    exact hfault
  constructor
  · intro hblames
    have hformat := hblames.hasOtherFormat_iff hfault
    exact ⟨hblames, hformat, (not_congr hformat).trans hblames.unmappable_iff⟩
  · exact And.left

end FieldType

end ApiTypes

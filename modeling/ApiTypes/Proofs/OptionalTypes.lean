import ApiTypes.Proofs.MappableProperty

/-!
Which parts of a descriptor its type depends on. Options come from the mark of the outermost
descriptor alone, and only where neither an array nor a map stands; what is inside never has one.
Descriptions, the marks further in, and the formats of types that are no numbers change nothing.
-/
namespace ApiTypes

namespace Property

/-- An array that is not a reference. -/
structure IsArray (p : Property) : Prop where
  no_reference : p.reference = none
  kind_eq : p.kind = some .array

/-- An object without a field list of its own that is not a reference: a map, if anything. -/
structure IsMap (p : Property) : Prop where
  no_reference : p.reference = none
  kind_eq : p.kind = some .object
  no_fields : p.properties = none

theorem IsArray.not_isMap {p : Property} (h : p.IsArray) : ¬ p.IsMap := by
  intro hmap
  have heq := h.kind_eq.symm.trans hmap.kind_eq
  cases heq

/-- The descriptors are the same but for descriptions, marks as required, and the formats of types
that are no numbers, in themselves and in everything they hold. -/
inductive Alike : Property → Property → Prop
  | intro {p p' : Property} (kind_eq : p.kind = p'.kind) (reference_eq : p.reference = p'.reference)
      (format_eq : p.kind ∉ [some .string, some .boolean, some .any] → p.format = p'.format)
      (items_alike : Option.Rel Alike p.items p'.items)
      (additional_alike : Option.Rel Alike p.additional p'.additional)
      (names_eq : p.properties.map Table.keys = p'.properties.map Table.keys)
      (fields_alike : Option.Rel (List.Forall₂ Alike) (p.properties.map Table.values)
        (p'.properties.map Table.values)) : Alike p p'

theorem Alike.exists_eq {kind : Option JsonType} {reference description format : Option String}
    {required : Bool} {items additional : Option Property} {properties : Option (Table Property)}
    {p' : Property}
    (h : Alike ⟨kind, reference, description, format, required, items, additional, properties⟩ p') :
    ∃ description' format' required' items' additional' properties',
      p' = ⟨kind, reference, description', format', required', items', additional', properties'⟩ ∧
        (kind ∉ [some .string, some .boolean, some .any] → format = format') ∧
        Option.Rel Alike items items' ∧ Option.Rel Alike additional additional' ∧
        properties.isSome = properties'.isSome := by
  cases h with
  | intro kind_eq reference_eq format_eq items_alike additional_alike names_eq =>
  obtain ⟨kind', reference', description', format', required', items', additional', properties'⟩ := p'
  cases kind_eq
  cases reference_eq
  have has_fields := congrArg Option.isSome names_eq
  simp only [Option.isSome_map] at has_fields
  exact ⟨_, _, _, _, _, _, rfl, format_eq, items_alike, additional_alike, has_fields⟩

end Property

namespace FieldType
variable {schema property : String} {mayBeOptional : Bool} {p p' : Property} {t : FieldType}
  {kind : JsonType} {format : Option String}

/-- Somewhere in the type stands an option. -/
def HasOption : FieldType → Prop
  | option _ => True
  | list t | map t => t.HasOption
  | _ => False

/-- What a descriptor says of its type: whether it is a list or a map, and whether it is optional if
it is neither. -/
inductive Outlines (mayBeOptional : Bool) (p : Property) : FieldType → Prop
  | list {t : FieldType} (array : p.IsArray) (no_option : ¬ t.HasOption) :
      Outlines mayBeOptional p (.list t)
  | map {t : FieldType} (map : p.IsMap) (no_option : ¬ t.HasOption) :
      Outlines mayBeOptional p (.map t)
  | option {t : FieldType} (no_array : ¬ p.IsArray) (no_map : ¬ p.IsMap) (no_option : ¬ t.HasOption)
      (may_be_optional : mayBeOptional = true) (not_required : p.required = false) :
      Outlines mayBeOptional p (.option t)
  | plain {t : FieldType} (no_array : ¬ p.IsArray) (no_map : ¬ p.IsMap) (no_option : ¬ t.HasOption)
      (no_collection : t.isCollection = false) (required : mayBeOptional = true → p.required = true) :
      Outlines mayBeOptional p t

theorem Outlines.not_hasOption (h : Outlines false p t) : ¬ t.HasOption := by
  cases h with
  | list _ no_option | map _ no_option => exact no_option
  | option _ _ _ may_be_optional => cases may_be_optional
  | plain _ _ no_option => exact no_option

theorem wrap_congr {required required' : Bool} (h : mayBeOptional = true → required = required') :
    (mayBeOptional && !required) = (mayBeOptional && !required') := by
  cases mayBeOptional with
  | true => rw [h rfl]
  | false => rfl

theorem outlines_wrap (no_array : ¬ p.IsArray) (no_map : ¬ p.IsMap) (no_option : ¬ t.HasOption)
    (no_collection : t.isCollection = false) :
    Outlines mayBeOptional p (if mayBeOptional && !p.required then .option t else t) := by
  split
  · next h =>
    simp only [Bool.and_eq_true, Bool.not_eq_true'] at h
    exact .option no_array no_map no_option h.1 h.2
  · next h =>
    refine .plain no_array no_map no_option no_collection fun hmay => ?_
    simpa [hmay] using h

theorem not_hasOption_of_ofScalar (h : ofScalar schema property kind format = .ok t) :
    ¬ t.HasOption ∧ t.isCollection = false := by
  unfold ofScalar at h
  split at h
  case h_3 | h_4 => split at h <;> cases h <;> exact ⟨nofun, rfl⟩
  case h_1 | h_2 | h_5 =>
    cases h
    exact ⟨nofun, rfl⟩
  all_goals cases h

theorem outlines_scalar (no_reference : p.reference = none) (kind_eq : p.kind = some kind)
    (hkind : kind ∉ [JsonType.array, .object])
    (h : ofDescriptor schema property mayBeOptional p = .ok t) : Outlines mayBeOptional p t := by
  rw [ofDescriptor_scalar no_reference kind_eq hkind] at h
  obtain ⟨scalar, hscalar, rfl⟩ := Outcome.map_ok_iff.1 h
  obtain ⟨no_option, no_collection⟩ := not_hasOption_of_ofScalar hscalar
  have no_array : ¬ p.IsArray := fun ha => by simp_all [ha.kind_eq]
  have no_map : ¬ p.IsMap := fun hm => by simp_all [hm.kind_eq]
  exact outlines_wrap no_array no_map no_option no_collection

theorem outlines_of_ofDescriptor (h : ofDescriptor schema property mayBeOptional p = .ok t) :
    Outlines mayBeOptional p t := by
  have hp := mappable_of_ofDescriptor h
  induction hp generalizing mayBeOptional t with
  | @reference p target reference_eq accepted =>
    rw [ofDescriptor_reference reference_eq, if_pos accepted, Except.ok.injEq] at h
    subst h
    have no_array : ¬ p.IsArray := fun ha => by simp [ha.no_reference] at reference_eq
    have no_map : ¬ p.IsMap := fun hm => by simp [hm.no_reference] at reference_eq
    exact outlines_wrap no_array no_map nofun rfl
  | array no_reference kind_eq items_eq _ ih =>
    rw [ofDescriptor_array no_reference kind_eq items_eq] at h
    obtain ⟨element, helement, rfl⟩ := Outcome.map_ok_iff.1 h
    exact .list ⟨no_reference, kind_eq⟩ (ih helement).not_hasOption
  | @object p no_reference kind_eq has_fields accepted =>
    rw [ofDescriptor_object no_reference kind_eq has_fields, if_pos accepted, Except.ok.injEq] at h
    subst h
    have no_array : ¬ p.IsArray := fun ha => by simp [ha.kind_eq] at kind_eq
    have no_map : ¬ p.IsMap := fun hm => by simp [hm.no_fields] at has_fields
    exact outlines_wrap no_array no_map nofun rfl
  | map no_reference kind_eq no_fields additional_eq _ ih =>
    rw [ofDescriptor_map no_reference kind_eq no_fields additional_eq] at h
    obtain ⟨value, hvalue, rfl⟩ := Outcome.map_ok_iff.1 h
    exact .map ⟨no_reference, kind_eq, no_fields⟩ (ih hvalue).not_hasOption
  | plain no_reference kind_eq plain =>
    exact outlines_scalar no_reference kind_eq (not_mem_structured_iff.2 (Or.inl plain)) h
  | numeric no_reference kind_eq numeric =>
    exact outlines_scalar no_reference kind_eq (not_mem_structured_iff.2 (Or.inr numeric)) h

theorem ofScalar_congr {format' : Option String}
    (h : some kind ∉ [some JsonType.string, some .boolean, some .any] → format = format') :
    ofScalar schema property kind format = ofScalar schema property kind format' := by
  cases kind with
  | string | boolean | any => rfl
  | _ => rw [h (by decide)]

/-- Descriptors that are alike have the same type or fail in the same way, if the mark of the
outermost one agrees wherever it counts. -/
theorem ofDescriptor_congr (halike : p.Alike p')
    (hrequired : mayBeOptional = true → p.required = p'.required) :
    ofDescriptor schema property mayBeOptional p = ofDescriptor schema property mayBeOptional p' := by
  fun_induction ofDescriptor schema property mayBeOptional p generalizing p' with
  | case1 =>
    obtain ⟨_, _, _, _, _, _, rfl, _⟩ := halike.exists_eq
    rw [ofDescriptor_reference rfl, if_pos ‹_›, ← wrap_congr hrequired]
  | case2 =>
    obtain ⟨_, _, _, _, _, _, rfl, _⟩ := halike.exists_eq
    rw [ofDescriptor_reference rfl, if_neg ‹_›]
  | case3 =>
    obtain ⟨_, _, _, _, _, _, rfl, _⟩ := halike.exists_eq
    rfl
  | case4 =>
    obtain ⟨_, _, _, _, _, _, rfl, _, items_alike, _⟩ := halike.exists_eq
    cases items_alike
    rfl
  | case5 _ _ _ _ _ _ element ih =>
    obtain ⟨_, _, _, _, _, _, rfl, _, items_alike, _⟩ := halike.exists_eq
    cases items_alike with
    | some alike =>
      rw [ih alike (absurd · Bool.false_ne_true)]
      rfl
  | case6 =>
    obtain ⟨_, _, _, _, _, _, rfl, _, _, _, has_fields⟩ := halike.exists_eq
    rw [ofDescriptor_object rfl rfl has_fields.symm, if_pos ‹_›, ← wrap_congr hrequired]
  | case7 =>
    obtain ⟨_, _, _, _, _, _, rfl, _, _, _, has_fields⟩ := halike.exists_eq
    rw [ofDescriptor_object rfl rfl has_fields.symm, if_neg ‹_›]
  | case8 =>
    obtain ⟨_, _, _, _, _, properties', rfl, _, _, additional_alike, has_fields⟩ := halike.exists_eq
    cases additional_alike
    cases properties' with
    | none => rfl
    | some fields => cases has_fields
  | case9 _ _ _ _ _ value ih =>
    obtain ⟨_, _, _, _, _, properties', rfl, _, _, additional_alike, has_fields⟩ := halike.exists_eq
    cases properties' with
    | some fields => cases has_fields
    | none =>
    cases additional_alike with
    | some alike =>
      rw [ih alike (absurd · Bool.false_ne_true)]
      rfl
  | case10 _ _ _ _ _ _ _ _ kind harray =>
    have hobject : kind ≠ .object := ‹_›
    have hkind : kind ∉ [JsonType.array, .object] := by simpa using ⟨harray, hobject⟩
    obtain ⟨_, _, _, _, _, _, rfl, format_eq, _⟩ := halike.exists_eq
    rw [ofDescriptor_scalar rfl rfl hkind, ← wrap_congr hrequired, ofScalar_congr format_eq]

/-- A type has an option at most around all of it. It is there exactly if the descriptor is not
required and neither an array nor a map; those alone are lists and maps. Descriptors that are alike
and agree in their own marks have the same type or fail in the same way. -/
theorem ofProperty_optional_outermost (schema property : String) (p : Property) :
    (∀ t, ofProperty schema property p = .ok t →
      (¬ t.HasOption ∨ ∃ v, t = .option v ∧ ¬ v.HasOption) ∧
        ((∃ v, t = .option v) ↔ p.required = false ∧ ¬ p.IsArray ∧ ¬ p.IsMap) ∧
        ((∃ v, t = .list v) ↔ p.IsArray) ∧ ((∃ v, t = .map v) ↔ p.IsMap)) ∧
      ∀ p', p.Alike p' → p.required = p'.required →
        ofProperty schema property p = ofProperty schema property p' := by
  refine ⟨fun t ht => ?_, fun p' halike hrequired => ofDescriptor_congr halike fun _ => hrequired⟩
  cases outlines_of_ofDescriptor ht with
  | list array no_option =>
    have no_map : ¬ p.IsMap := array.not_isMap
    simp [HasOption, no_option, array, no_map]
  | map map no_option =>
    have no_array : ¬ p.IsArray := fun array => array.not_isMap map
    simp [HasOption, no_option, map, no_array]
  | option no_array no_map no_option _ not_required =>
    simp [no_option, not_required, no_array, no_map]
  | plain no_array no_map no_option no_collection required =>
    have no_list : ¬ ∃ v, t = .list v := by
      rintro ⟨v, rfl⟩
      cases no_collection
    have no_table : ¬ ∃ v, t = .map v := by
      rintro ⟨v, rfl⟩
      cases no_collection
    have no_outer : ¬ ∃ v, t = .option v := by
      rintro ⟨v, rfl⟩
      exact no_option trivial
    simp [no_option, no_array, no_map, no_list, no_table, no_outer, required rfl]

/-- A map of arrays of texts, with descriptions and marks at every level. -/
def ratings : Property where
  kind := some .object
  description := some "Ratings by country."
  additional := some {
    kind := some .array
    required := true
    items := some { kind := some .string, format := some "byte", required := true } }

/-- The same map without them. -/
def bareRatings : Property :=
  .mapOf (.arrayOf (.of .string))

theorem ofProperty_optional_outermost_ratings :
    ofProperty "Video" "ratings" ratings = .ok (.map (.list .string)) ∧ ratings.IsMap ∧
      ofProperty "Video" "ratings" bareRatings = .ok (.map (.list .string)) := by
  have ht : ofProperty "Video" "ratings" ratings = .ok (.map (.list .string)) := by decide
  obtain ⟨houtline, hsame⟩ := ofProperty_optional_outermost "Video" "ratings" ratings
  have hmap : ratings.IsMap := (houtline _ ht).2.2.2.1 ⟨_, rfl⟩
  have halike : ratings.Alike bareRatings := by
    refine .intro rfl rfl (fun _ => rfl) .none (.some ?_) rfl .none
    refine .intro rfl rfl (fun _ => rfl) (.some ?_) .none rfl .none
    exact .intro rfl rfl (absurd (by decide)) .none .none rfl .none
  exact ⟨ht, hmap, (hsame bareRatings halike rfl).symm.trans ht⟩

end FieldType

end ApiTypes

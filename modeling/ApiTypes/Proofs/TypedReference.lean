import ApiTypes.Proofs.MappableProperty

/-!
References with a type beside them. A descriptor is meant to have either a type or a reference. The
mapping fails at one that has neither; of one that has both it sees the reference only, so that the
type may as well not be there.
-/
namespace ApiTypes

namespace Property

/-- Either a type or a reference is set, and not both. -/
def HasOneSource (p : Property) : Prop :=
  p.kind.isSome ≠ p.reference.isSome

instance (p : Property) : Decidable p.HasOneSource :=
  inferInstanceAs (Decidable (_ ≠ _))

/-- A reference with a type beside it. -/
def IsTypedReference (p : Property) : Prop :=
  p.kind.isSome = true ∧ p.reference.isSome = true

def untyped (p : Property) : Property :=
  { p with kind := none }

/-- The array or map with something else in it. -/
def holding (p q : Property) : Property :=
  if p.kind = some .array then { p with items := some q } else { p with additional := some q }

/-- The descriptor without the type beside the reference that the descent ends at, if it ends at
one. -/
def tidied (p : Property) : Property :=
  match _h : p.inner? with
  | none => if p.reference.isSome then p.untyped else p
  | some q => p.holding q.tidied
termination_by sizeOf p
decreasing_by exact sizeOf_inner? ‹_›

variable {p q q' : Property}

theorem untyped_eq_self_iff : p.untyped = p ↔ p.kind = none := by
  constructor
  · intro heq
    exact (congrArg kind heq).symm
  · intro hkind
    cases p
    cases hkind
    rfl

theorem tidied_of_none (h : p.inner? = none) :
    p.tidied = if p.reference.isSome then p.untyped else p := by
  rw [tidied]
  split
  · rfl
  · next hq => simp [h] at hq

theorem tidied_of_some (h : p.inner? = some q) : p.tidied = p.holding q.tidied := by
  rw [tidied]
  split
  · next hq => simp [h] at hq
  · next hq =>
    rw [h, Option.some.injEq] at hq
    rw [hq]

theorem inner?_of_reference (h : p.reference.isSome = true) : p.inner? = none := by
  obtain ⟨target, htarget⟩ := Option.isSome_iff_exists.1 h
  simp [inner?, htarget]

/-- Only arrays and maps hold anything, and these are no references. -/
theorem hasOneSource_of_inner? (h : p.inner? = some q) : p.HasOneSource := by
  rcases inner?_eq_some_iff.1 h with ⟨no_reference, kind_eq, _⟩ | ⟨no_reference, kind_eq, _⟩ <;>
    simp [HasOneSource, no_reference, kind_eq]

theorem inner?_holding (h : p.inner? = some q) (q' : Property) :
    (p.holding q').inner? = some q' := by
  rcases inner?_eq_some_iff.1 h with
    ⟨no_reference, kind_eq, _⟩ | ⟨no_reference, kind_eq, no_fields, _⟩
  · simp [holding, inner?, no_reference, kind_eq]
  · simp [holding, inner?, no_reference, kind_eq, no_fields]

theorem holding_inner (h : p.inner? = some q) : p.holding q = p := by
  rcases inner?_eq_some_iff.1 h with ⟨_, kind_eq, items_eq⟩ | ⟨_, kind_eq, _, additional_eq⟩
  · rw [holding, if_pos kind_eq, ← items_eq]
    cases p
    rfl
  · rw [holding, if_neg (by simp [kind_eq]), ← additional_eq]
    cases p
    rfl

theorem holding_eq_self_iff (h : p.inner? = some q) : p.holding q' = p ↔ q' = q := by
  constructor
  · intro heq
    have hinner := inner?_holding h q'
    rw [heq, h, Option.some.injEq] at hinner
    exact hinner.symm
  · rintro rfl
    exact holding_inner h

end Property

open Property

namespace FieldType
variable {schema property : String} {mayBeOptional : Bool} {p q q' : Property} {t : FieldType}

theorem ofDescriptor_holding (h : p.inner? = some q)
    (hsame : ofDescriptor schema property false q' = ofDescriptor schema property false q) :
    ofDescriptor schema property mayBeOptional (p.holding q') =
      ofDescriptor schema property mayBeOptional p := by
  rcases inner?_eq_some_iff.1 h with
    ⟨no_reference, kind_eq, items_eq⟩ | ⟨no_reference, kind_eq, no_fields, additional_eq⟩
  · rw [holding, if_pos kind_eq, ofDescriptor_array no_reference kind_eq items_eq, ← hsame]
    exact ofDescriptor_array no_reference kind_eq rfl
  · rw [holding, if_neg (by simp [kind_eq]),
      ofDescriptor_map no_reference kind_eq no_fields additional_eq, ← hsame]
    exact ofDescriptor_map no_reference kind_eq no_fields rfl

/-- The type beside a reference means nothing to the mapping. -/
theorem ofDescriptor_tidied (p : Property) (mayBeOptional : Bool) :
    ofDescriptor schema property mayBeOptional p.tidied =
      ofDescriptor schema property mayBeOptional p := by
  induction p using inner_induction generalizing mayBeOptional with
  | leaf p hinner =>
    rw [tidied_of_none hinner]
    split
    · next href =>
      obtain ⟨target, htarget⟩ := Option.isSome_iff_exists.1 href
      rw [ofDescriptor_reference htarget]
      exact ofDescriptor_reference htarget
    · rfl
  | inner p q hinner ih =>
    rw [tidied_of_some hinner]
    exact ofDescriptor_holding hinner (ih false)

/-- No type expresses a descriptor that has neither a type nor a reference. -/
theorem Mappable.hasOneSource_iff (h : Mappable schema property p) :
    p.HasOneSource ↔ ¬ p.IsTypedReference := by
  cases h with
  | reference reference_eq accepted =>
    cases hkind : p.kind <;> simp [HasOneSource, IsTypedReference, hkind, reference_eq]
  | _ => simp_all [HasOneSource, IsTypedReference]

/-- Of the descriptors that the mapping looks at, only the last may be a reference with a type. -/
theorem Mappable.exists_visited_eq (h : Mappable schema property p) :
    ∃ before last, p.visited = before ++ [last] ∧ (∀ q ∈ before, q.HasOneSource) ∧
      (last.HasOneSource ∨ last.IsTypedReference) := by
  induction p using inner_induction with
  | leaf p hinner =>
    have hlast := (em p.IsTypedReference).symm.imp_left h.hasOneSource_iff.2
    exact ⟨[], p, visited_of_none hinner, nofun, hlast⟩
  | inner p q hinner ih =>
    obtain ⟨before, last, hvisited, hbefore, hlast⟩ := ih ((mappable_inner_iff hinner).1 h)
    refine ⟨p :: before, last, ?_, ?_, hlast⟩
    · rw [visited_of_some hinner, hvisited]
      rfl
    · exact List.forall_mem_cons.2 ⟨hasOneSource_of_inner? hinner, hbefore⟩

theorem Mappable.hasOneSource_tidied (h : Mappable schema property p) :
    ∀ q ∈ p.tidied.visited, q.HasOneSource := by
  induction p using inner_induction with
  | leaf p hinner =>
    rw [tidied_of_none hinner]
    split
    · next href =>
      have hbare : p.untyped.inner? = none := inner?_of_reference href
      rw [visited_of_none hbare, List.forall_mem_singleton]
      simp [HasOneSource, untyped, href]
    · next href =>
      rw [visited_of_none hinner, List.forall_mem_singleton]
      exact h.hasOneSource_iff.2 fun htyped => href htyped.2
  | inner p q hinner ih =>
    have hheld := inner?_holding hinner q.tidied
    rw [tidied_of_some hinner, visited_of_some hheld, List.forall_mem_cons]
    exact ⟨hasOneSource_of_inner? hheld, ih ((mappable_inner_iff hinner).1 h)⟩

theorem Mappable.tidied_eq_self_iff (h : Mappable schema property p) :
    p.tidied = p ↔ ∀ q ∈ p.visited, q.HasOneSource := by
  induction p using inner_induction with
  | leaf p hinner =>
    rw [tidied_of_none hinner, visited_of_none hinner, List.forall_mem_singleton,
      h.hasOneSource_iff]
    split
    · next href => simp [untyped_eq_self_iff, IsTypedReference, href]
    · next href => simp [IsTypedReference, href]
  | inner p q hinner ih =>
    rw [tidied_of_some hinner, visited_of_some hinner, List.forall_mem_cons,
      holding_eq_self_iff hinner, ih ((mappable_inner_iff hinner).1 h)]
    exact (and_iff_right (hasOneSource_of_inner? hinner)).symm

/-- A descriptor is mapped, or refused, as without the type beside the reference that the mapping
ends at. Where it is mapped, every descriptor that the mapping looks at has either a type or a
reference, but the last one may have both. -/
theorem one_source_unless_typed_reference (schema property : String) (p : Property) :
    ofProperty schema property p.tidied = ofProperty schema property p ∧
      ∀ t, ofProperty schema property p = .ok t →
        (∃ before last, p.visited = before ++ [last] ∧ (∀ q ∈ before, q.HasOneSource) ∧
            (last.HasOneSource ∨ last.IsTypedReference)) ∧
          (p.tidied = p ↔ ∀ q ∈ p.visited, q.HasOneSource) ∧
          ∀ q ∈ p.tidied.visited, q.HasOneSource := by
  refine ⟨ofDescriptor_tidied p true, fun t ht => ?_⟩
  have hp : Mappable schema property p := mappable_of_ofDescriptor ht
  exact ⟨hp.exists_visited_eq, hp.tidied_eq_self_iff, hp.hasOneSource_tidied⟩

/-- A reference that says that it is a text. -/
def typedLink : Property :=
  { kind := some .string, reference := some "Link" }

/-- A map of lists of such references, with the type and without it. -/
def typedLinks : Property :=
  .mapOf (.arrayOf typedLink)

def links : Property :=
  .mapOf (.arrayOf (.referTo "Link"))

theorem one_source_unless_typed_reference_links :
    ofProperty "Video" "links" typedLinks = .ok (.map (.list (.named "Link"))) ∧
      typedLinks.tidied = links ∧
      ofProperty "Video" "links" links = .ok (.map (.list (.named "Link"))) ∧
      (∀ q ∈ links.visited, q.HasOneSource) ∧ ¬ ∀ q ∈ typedLinks.visited, q.HasOneSource := by
  have hmapped : ofProperty "Video" "links" typedLinks = .ok (.map (.list (.named "Link"))) := by
    decide
  have htidied : typedLinks.tidied = links := by
    rw [tidied_of_some rfl, tidied_of_some rfl, tidied_of_none rfl]
    rfl
  obtain ⟨hsame, hsources⟩ := one_source_unless_typed_reference "Video" "links" typedLinks
  obtain ⟨_, hunchanged, htidy⟩ := hsources _ hmapped
  rw [htidied] at hsame hunchanged htidy
  refine ⟨hmapped, htidied, hsame.trans hmapped, htidy, fun hall => ?_⟩
  cases hunchanged.2 hall

/-- A reference with a type is mapped, though it is no descriptor that has only one of them. -/
theorem typedLink_mapped :
    ¬ ∀ schema property p t, ofProperty schema property p = .ok t →
        ∀ q ∈ p.visited, q.HasOneSource := by
  intro h
  have hmapped : ofProperty "Video" "link" typedLink = .ok (.option (.named "Link")) := by decide
  have hvisited : typedLink ∈ typedLink.visited := by
    rw [visited_of_none rfl]
    exact List.mem_singleton_self _
  exact absurd (h _ _ _ _ hmapped _ hvisited) (by decide)

end FieldType

end ApiTypes

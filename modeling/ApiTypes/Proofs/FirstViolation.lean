import ApiTypes.Proofs.UnitList

/-!
The units of a document are generated all together or not at all. What stops the generation is
found in three passes: over the catalog for a schema without a shape, then over all schemas for a
name that is taken, then over all schemas for one that has no unit. Each pass reports the first
schema that it stops at.
-/
namespace ApiTypes

/-- The first element of the list that meets the condition, which may look at the elements before
it. -/
def IsFirst {α : Type} (P : List α → α → Prop) (l : List α) (a : α) : Prop :=
  ∃ before after, l = before ++ a :: after ∧ P before a ∧
    ∀ front b rest, before = front ++ b :: rest → ¬ P front b

/-- The step gives no result for this element. -/
def Refuses {α β ε : Type} (f : α → Except ε β) (a : α) : Prop :=
  ∃ e, f a = .error e

section first
variable {α β ε : Type} {P : List α → α → Prop} {l : List α} {a b : α} {f : α → Except ε β} {e : ε}

theorem not_isFirst_nil : ¬ IsFirst P [] a := by
  rintro ⟨before, after, hl, _⟩
  simp at hl

/-- An element that meets the condition ends the search. -/
theorem isFirst_cons_of_meets (hb : P [] b) : IsFirst P (b :: l) a ↔ a = b := by
  constructor
  · rintro ⟨before, after, hl, ha, hbefore⟩
    rcases List.cons_eq_append_iff.1 hl with ⟨rfl, hl⟩ | ⟨front, rfl, _⟩
    · exact (List.cons.inj hl).1.symm
    · exact absurd hb (hbefore [] b front rfl)
  · rintro rfl
    exact ⟨[], l, rfl, hb, fun _ _ _ hfront => by simp at hfront⟩

/-- Past an element that does not meet the condition, the search goes on in the rest. -/
theorem isFirst_cons_iff (hb : ¬ P [] b) :
    IsFirst P (b :: l) a ↔ IsFirst (fun before => P (b :: before)) l a := by
  constructor
  · rintro ⟨before, after, hl, ha, hbefore⟩
    rcases List.cons_eq_append_iff.1 hl with ⟨rfl, hl⟩ | ⟨before, rfl, rfl⟩
    · cases hl
      exact absurd ha hb
    · refine ⟨before, after, rfl, ha, fun front c rest hfront => ?_⟩
      exact hbefore (b :: front) c rest (by rw [hfront, List.cons_append])
  · rintro ⟨before, after, rfl, ha, hbefore⟩
    refine ⟨b :: before, after, rfl, ha, fun front c rest hfront => ?_⟩
    rcases List.cons_eq_append_iff.1 hfront with ⟨rfl, hc⟩ | ⟨front, rfl, hrest⟩
    · rwa [(List.cons.inj hc).1]
    · exact hbefore front c rest hrest

theorem isFirst_congr {Q : List α → α → Prop} (h : ∀ b ∈ l, ∀ before, P before b ↔ Q before b) :
    IsFirst P l a ↔ IsFirst Q l a := by
  unfold IsFirst
  refine exists_congr fun before => exists_congr fun after => and_congr_right fun hl => ?_
  have ha : a ∈ l := by simp [hl]
  refine and_congr (h a ha before) (forall_congr' fun front => forall_congr' fun b =>
    forall_congr' fun rest => forall_congr' fun hbefore => not_congr (h b ?_ front))
  simp [hl, hbefore]

/-- A step taken for each element in turn fails at the first element that it refuses. -/
theorem Outcome.mapM_error_iff :
    l.mapM f = .error e ↔ ∃ a, IsFirst (fun _ => Refuses f) l a ∧ f a = .error e := by
  induction l with
  | nil => simp [not_isFirst_nil, pure, Except.pure]
  | cons b rest ih =>
    rw [List.mapM_cons]
    cases hb : f b with
    | error e' =>
      have hrefuses : Refuses f b := ⟨e', hb⟩
      simp only [isFirst_cons_of_meets (P := fun _ => Refuses f) hrefuses, exists_eq_left, hb]
      simp [bind, Except.bind]
    | ok c =>
      have hgoes : ¬ Refuses f b := by
        rintro ⟨e', he'⟩
        rw [hb] at he'
        cases he'
      simp only [isFirst_cons_iff (P := fun _ => Refuses f) hgoes, ← ih]
      cases rest.mapM f <;> simp [bind, Except.bind, pure, Except.pure]

end first

namespace SourceModule
variable {c : Context} {d : Document} {schemas done : List SchemaNode} {seen : List String}

/-- The name of the schema belongs to a marker, or to one of the schemas before it. -/
def Clashes (before : List SchemaNode) (s : SchemaNode) : Prop :=
  s.id ∈ Marker.all.map Marker.name ∨ s.id ∈ before.map SchemaNode.id

/-- What owns the name of a schema that clashes. A marker comes before another type. -/
def ownerOf (s : SchemaNode) : NameOwner :=
  if s.id ∈ Marker.all.map Marker.name then .markerTrait else .anotherType

/-- The search for a clash, begun after the schemas `done`, ends at the first schema that clashes. -/
theorem nameClash?_eq_some_iff {e : CodeError}
    (hseen : ∀ id, id ∈ seen ↔ id ∈ done.map SchemaNode.id) :
    nameClash? seen schemas = some e ↔
      ∃ s, IsFirst (fun before => Clashes (done ++ before)) schemas s ∧
        .typeClash s.id (ownerOf s) = e := by
  induction schemas generalizing seen done with
  | nil => simp [nameClash?, not_isFirst_nil]
  | cons b rest ih =>
    rw [nameClash?]
    by_cases hmarker : b.id ∈ Marker.all.map Marker.name
    · have hb : Clashes (done ++ []) b := Or.inl hmarker
      have howner : ownerOf b = .markerTrait := if_pos hmarker
      simp only [isFirst_cons_of_meets (P := fun before => Clashes (done ++ before)) hb,
        exists_eq_left, howner, List.contains_eq_mem, hmarker, decide_true, if_true,
        Option.some.injEq]
    have howner : ownerOf b = .anotherType := if_neg hmarker
    by_cases htaken : b.id ∈ seen
    · have hb : Clashes (done ++ []) b := Or.inr (by simpa using (hseen b.id).1 htaken)
      simp only [isFirst_cons_of_meets (P := fun before => Clashes (done ++ before)) hb,
        exists_eq_left, howner, List.contains_eq_mem, hmarker, htaken, decide_true, decide_false,
        Bool.false_eq_true, if_true, if_false, Option.some.injEq]
    · have hb : ¬ Clashes (done ++ []) b := by
        rintro (hmem | hmem)
        · exact hmarker hmem
        · exact htaken ((hseen b.id).2 (by simpa using hmem))
      have hseen' : ∀ id, id ∈ b.id :: seen ↔ id ∈ (done ++ [b]).map SchemaNode.id := by
        intro id
        simp [hseen, or_comm]
      simp only [isFirst_cons_iff (P := fun before => Clashes (done ++ before)) hb,
        List.contains_eq_mem, hmarker, htaken, decide_false, Bool.false_eq_true, if_false,
        ih hseen', List.append_assoc, List.cons_append, List.nil_append]

/-- What the schemas of a document decide about its units, by the first pass that stops. -/
inductive Decides (c : Context) (d : Document) : Outcome (List TypeUnit) → Prop
  /-- A schema of the catalog has no shape. -/
  | shapeless {s : SchemaNode} {e : ShapeError}
      (first : IsFirst (fun _ => Refuses SchemaNode.shape) d.schemas.values s)
      (error : s.shape = .error e) :
      Decides c d (Outcome.fail (.shape e))
  /-- All of them have one, and a schema has a name that is taken. -/
  | clash {nested : List SchemaNode} {s : SchemaNode}
      (shapes : ∀ s ∈ d.schemas.values, ∃ shape, s.shape = .ok shape)
      (nested_eq : nestedSchemas d.schemas.values = .ok nested)
      (first : IsFirst Clashes (d.schemas.values ++ nested) s) :
      Decides c d (Outcome.fail (.code (.typeClash s.id (ownerOf s))))
  /-- No name is taken, and a schema has no unit. -/
  | failure {nested : List SchemaNode} {s : SchemaNode} {f : Failure}
      (shapes : ∀ s ∈ d.schemas.values, ∃ shape, s.shape = .ok shape)
      (nested_eq : nestedSchemas d.schemas.values = .ok nested)
      (nodup_ids : ((d.schemas.values ++ nested).map SchemaNode.id).Nodup)
      (no_marker : ∀ s ∈ d.schemas.values ++ nested, s.id ∉ Marker.all.map Marker.name)
      (first : IsFirst (fun _ => Refuses (TypeUnit.ofSchema c)) (d.schemas.values ++ nested) s)
      (error : TypeUnit.ofSchema c s = .error f) :
      Decides c d (.error f)
  /-- Every schema has a unit of its name. -/
  | complete {nested : List SchemaNode} {units : List TypeUnit}
      (shapes : ∀ s ∈ d.schemas.values, ∃ shape, s.shape = .ok shape)
      (nested_eq : nestedSchemas d.schemas.values = .ok nested)
      (nodup_ids : ((d.schemas.values ++ nested).map SchemaNode.id).Nodup)
      (no_marker : ∀ s ∈ d.schemas.values ++ nested, s.id ∉ Marker.all.map Marker.name)
      (units_eq : List.Forall₂ (fun s u => TypeUnit.ofSchema c s = .ok u ∧ u.typeName.text = s.id)
        (d.schemas.values ++ nested) units) :
      Decides c d (.ok units)

variable {nested : List SchemaNode} {r : Outcome (List TypeUnit)}

theorem schema_nestedSchemas_error_iff {s : SchemaNode} {e : ShapeError} :
    s.nestedSchemas = .error e ↔ s.shape = .error e := by
  unfold SchemaNode.nestedSchemas
  cases s.shape <;> simp [bind, Except.bind, pure, Except.pure]

/-- The search for nested schemas fails at the first schema of the catalog without a shape. -/
theorem nestedSchemas_error_iff {catalog : List SchemaNode} {e : ShapeError} :
    nestedSchemas catalog = .error e ↔
      ∃ s, IsFirst (fun _ => Refuses SchemaNode.shape) catalog s ∧ s.shape = .error e := by
  have hmap : nestedSchemas catalog = .error e ↔
      catalog.mapM SchemaNode.nestedSchemas = .error e := by
    unfold nestedSchemas
    cases catalog.mapM SchemaNode.nestedSchemas <;> simp [bind, Except.bind, pure, Except.pure]
  have hrefuses : Refuses SchemaNode.nestedSchemas = Refuses SchemaNode.shape := by
    funext s
    simp only [Refuses, schema_nestedSchemas_error_iff]
  simp only [hmap, Outcome.mapM_error_iff, hrefuses, schema_nestedSchemas_error_iff]

theorem unitsOf_of_nestedSchemas_error {e : ShapeError}
    (h : nestedSchemas d.schemas.values = .error e) : unitsOf c d = Outcome.fail (.shape e) := by
  rw [unitsOf, h]
  rfl

theorem unitsOf_of_clash {e : CodeError} (h : nestedSchemas d.schemas.values = .ok nested)
    (he : nameClash? [] (d.schemas.values ++ nested) = some e) :
    unitsOf c d = Outcome.fail (.code e) := by
  simp only [unitsOf, h, Except.mapError, bind, Except.bind, he]

theorem unitsOf_of_no_clash (h : nestedSchemas d.schemas.values = .ok nested)
    (hnone : nameClash? [] (d.schemas.values ++ nested) = none) :
    unitsOf c d = (d.schemas.values ++ nested).mapM (TypeUnit.ofSchema c) := by
  simp only [unitsOf, h, Except.mapError, bind, Except.bind, hnone]

theorem nameClash?_nil_eq_some_iff {e : CodeError} :
    nameClash? [] schemas = some e ↔
      ∃ s, IsFirst Clashes schemas s ∧ .typeClash s.id (ownerOf s) = e :=
  @nameClash?_eq_some_iff schemas [] [] e (by simp)

theorem decides_unitsOf (c : Context) (d : Document) : Decides c d (unitsOf c d) := by
  cases hnested : nestedSchemas d.schemas.values with
  | error e =>
    obtain ⟨s, hfirst, he⟩ := nestedSchemas_error_iff.1 hnested
    rw [unitsOf_of_nestedSchemas_error hnested]
    exact .shapeless hfirst he
  | ok nested =>
    have hshapes : ∀ s ∈ d.schemas.values, ∃ shape, s.shape = .ok shape :=
      fun s hs => exists_shape_of_mem hnested hs
    cases hclash : nameClash? [] (d.schemas.values ++ nested) with
    | some e =>
      obtain ⟨s, hfirst, rfl⟩ := nameClash?_nil_eq_some_iff.1 hclash
      rw [unitsOf_of_clash hnested hclash]
      exact .clash hshapes hnested hfirst
    | none =>
      obtain ⟨hnodup, hnames⟩ := nameClash?_eq_none_iff.1 hclash
      have hmarker := fun s hs => (hnames s hs).1
      rw [unitsOf_of_no_clash hnested hclash]
      cases hunits : (d.schemas.values ++ nested).mapM (TypeUnit.ofSchema c) with
      | error f =>
        obtain ⟨s, hfirst, hf⟩ := Outcome.mapM_error_iff.1 hunits
        exact .failure hshapes hnested hnodup hmarker hfirst hf
      | ok units =>
        refine .complete hshapes hnested hnodup hmarker ?_
        exact (Outcome.mapM_ok_iff.1 hunits).imp fun s u hu => ⟨hu, TypeUnit.text_typeName hu⟩

/-- The units of a document are what its schemas decide, and nothing else. -/
theorem unitsOf_eq_iff : unitsOf c d = r ↔ Decides c d r := by
  constructor
  · rintro rfl
    exact decides_unitsOf c d
  · intro h
    have hclear : ∀ {nested : List SchemaNode},
        ((d.schemas.values ++ nested).map SchemaNode.id).Nodup →
        (∀ s ∈ d.schemas.values ++ nested, s.id ∉ Marker.all.map Marker.name) →
        nameClash? [] (d.schemas.values ++ nested) = none := fun hnodup hmarker =>
      nameClash?_eq_none_iff.2 ⟨hnodup, fun s hs => ⟨hmarker s hs, List.not_mem_nil⟩⟩
    cases h with
    | shapeless first error =>
      exact unitsOf_of_nestedSchemas_error (nestedSchemas_error_iff.2 ⟨_, first, error⟩)
    | clash shapes nested_eq first =>
      exact unitsOf_of_clash nested_eq (nameClash?_nil_eq_some_iff.2 ⟨_, first, rfl⟩)
    | failure shapes nested_eq nodup_ids no_marker first error =>
      rw [unitsOf_of_no_clash nested_eq (hclear nodup_ids no_marker)]
      exact Outcome.mapM_error_iff.2 ⟨_, first, error⟩
    | complete shapes nested_eq nodup_ids no_marker units_eq =>
      rw [unitsOf_of_no_clash nested_eq (hclear nodup_ids no_marker)]
      exact Outcome.mapM_ok_iff.2 (units_eq.imp fun _ _ hu => hu.1)

end SourceModule

end ApiTypes

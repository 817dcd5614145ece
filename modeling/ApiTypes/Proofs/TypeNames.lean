import ApiTypes.Document.Encode
import ApiTypes.Proofs.DerivedNames
import ApiTypes.Proofs.LoadedDocument
import ApiTypes.Run

/-!
The names in the written types of a module. A generated type is written as its bare name, and so are
the built-in scalars, while nothing keeps a schema from bearing such a name. So two types are
written alike exactly where they are the same up to this confusion.
-/
namespace ApiTypes
variable {c : Context} {d : Document} {s : SchemaNode} {decl : Declaration} {t t' : FieldType}
  {e e' : TypeExpr} {rest : List String} {n : String}

namespace FieldType

/-- The names of built-in types that nothing qualifies where they are written. -/
def bareNames : List String :=
  ["bool", "String", "i32", "u32", "i64", "u64", "f32", "f64", "Vec", "Option"]

/-- The built-in type without arguments that a bare name is written for. -/
def ofBareName? : String → Option FieldType
  | "bool" => some bool
  | "String" => some string
  | "i32" => some i32
  | "u32" => some u32
  | "i64" => some i64
  | "u64" => some u64
  | "f32" => some f32
  | "f64" => some f64
  | _ => none

/-- The type with every bare name taken for the built-in type. -/
def resolved : FieldType → FieldType
  | named name => (ofBareName? name).getD (named name)
  | list t => list t.resolved
  | map t => map t.resolved
  | option t => option t.resolved
  | t => t

/-- The type around an argument that has been read, if the argument ends here. -/
def close? (wrap : FieldType → FieldType) :
    FieldType × List String → Option (FieldType × List String)
  | (t, ">" :: rest) => some (wrap t, rest)
  | _ => none

/-- Reads a type at the start of some tokens; a bare name is taken for the built-in type. -/
def read? : List String → Option (FieldType × List String)
  | "Vec" :: "<" :: rest => (read? rest).bind (close? list)
  | "Option" :: "<" :: rest => (read? rest).bind (close? option)
  | "std" :: "::" :: "collections" :: "::" :: "HashMap" :: "<" :: "String" :: "," :: rest =>
    (read? rest).bind (close? map)
  | "serde_json" :: "::" :: "Value" :: rest => some (json, rest)
  | name :: rest => some ((named name).resolved, rest)
  | [] => none

/-- The tokens cannot belong to a type that ends before them. -/
def EndsBefore (rest : List String) : Prop :=
  ∀ token ∈ rest.head?, token ≠ "<" ∧ token ≠ "::"

theorem endsBefore_close (rest : List String) : EndsBefore (">" :: rest) := by
  rintro token ⟨⟩
  decide

theorem not_endsBefore_open (rest : List String) : ¬ EndsBefore ("<" :: rest) :=
  fun h => (h "<" rfl).1 rfl

theorem not_endsBefore_colons (rest : List String) : ¬ EndsBefore ("::" :: rest) :=
  fun h => (h "::" rfl).2 rfl

/-- A name with nothing behind it that belongs to it is all of a type. -/
theorem read?_name (h : EndsBefore rest) (name : String) :
    read? (name :: rest) = some ((named name).resolved, rest) := by
  unfold read?
  split
  case h_1 heq | h_2 heq =>
    cases heq
    exact absurd h (not_endsBefore_open _)
  case h_3 heq | h_4 heq =>
    cases heq
    exact absurd h (not_endsBefore_colons _)
  case h_5 heq =>
    cases heq
    rfl
  case h_6 heq => cases heq

/-- A written type is read back, but for the bare names of built-in types. -/
theorem read?_tokens_append (h : t.expr = .ok e) (hrest : EndsBefore rest) :
    read? (e.tokens ++ rest) = some (t.resolved, rest) := by
  induction t generalizing e rest with
  | named name =>
    simp only [expr] at h
    split at h
    next i hi =>
      cases h
      rw [TypeExpr.tokens, Ident.text_of_ofText? hi]
      exact read?_name hrest name
    next => cases h
  | list t ih | option t ih | map t ih =>
    obtain ⟨inner, hinner, h⟩ := Outcome.bind_ok_iff.1 h
    cases h
    have hread := ih hinner (endsBefore_close rest)
    simp [TypeExpr.tokens, TypeExpr.moreTokens, read?, hread, close?, resolved, List.intersperse]
  | json =>
    cases h
    rfl
  | bool | string | i32 | u32 | i64 | u64 | f32 | f64 =>
    cases h
    exact read?_name hrest _

/-- A bare name stands for the built-in type that is written with it. -/
theorem expr_ofBareName? (h : ofBareName? n = some t) : t.expr = .ok (.path [n] []) := by
  unfold ofBareName? at h
  split at h <;> cases h <;> rfl

/-- Nothing is written otherwise when bare names are taken for built-in types. -/
theorem exists_expr_resolved (h : t.expr = .ok e) :
    ∃ r, t.resolved.expr = .ok r ∧ r.tokens = e.tokens := by
  induction t generalizing e with
  | named name =>
    rw [resolved]
    cases hname : ofBareName? name with
    | none => exact ⟨e, h, rfl⟩
    | some scalar =>
      refine ⟨_, expr_ofBareName? hname, ?_⟩
      simp only [expr] at h
      split at h
      next i hi =>
        cases h
        rw [TypeExpr.tokens, TypeExpr.tokens, Ident.text_of_ofText? hi]
        rfl
      next => cases h
  | list t ih | option t ih | map t ih =>
    obtain ⟨inner, hinner, h⟩ := Outcome.bind_ok_iff.1 h
    cases h
    obtain ⟨r, hr, htokens⟩ := ih hinner
    refine ⟨_, Outcome.bind_ok_iff.2 ⟨r, hr, rfl⟩, ?_⟩
    simp only [TypeExpr.tokens, TypeExpr.moreTokens, htokens]
  | _ => exact ⟨e, h, rfl⟩

/-- Two types are written alike exactly where they are the same but for the bare names of built-in
types. -/
theorem tokens_eq_iff (h : t.expr = .ok e) (h' : t'.expr = .ok e') :
    e.tokens = e'.tokens ↔ t.resolved = t'.resolved := by
  constructor
  · intro heq
    have hread : read? (e.tokens ++ []) = some (t.resolved, []) := read?_tokens_append h nofun
    have hread' : read? (e'.tokens ++ []) = some (t'.resolved, []) := read?_tokens_append h' nofun
    rw [heq, hread'] at hread
    exact (congrArg Prod.fst (Option.some.inj hread)).symm
  · intro heq
    obtain ⟨r, hr, htokens⟩ := exists_expr_resolved h
    obtain ⟨r', hr', htokens'⟩ := exists_expr_resolved h'
    rw [heq, hr', Except.ok.injEq] at hr
    rw [← htokens, ← htokens', hr]

theorem mem_bareNames_of_ofBareName? (h : ofBareName? n = some t) : n ∈ bareNames := by
  unfold ofBareName? at h
  split at h
  case h_9 => cases h
  all_goals decide

/-- A type is not taken for another one unless the name at its core is bare. -/
theorem resolved_eq_self (h : ∀ n, t.core = .named n → n ∉ bareNames) : t.resolved = t := by
  induction t with
  | named name =>
    have hnone : ofBareName? name = none := by
      by_contra hsome
      obtain ⟨scalar, hscalar⟩ := Option.ne_none_iff_exists'.1 hsome
      exact h name rfl (mem_bareNames_of_ofBareName? hscalar)
    rw [resolved, hnone, Option.getD_none]
  | list t ih | option t ih | map t ih => rw [resolved, ih h]
  | _ => rfl

end FieldType

namespace SourceModule

/-- The types of the fields of some schemas, each with the way the unit of the schema writes it. -/
def writtenTypes (schemas : List SchemaNode) (units : List TypeUnit) :
    List (FieldType × TypeExpr) :=
  (schemas.zip units).flatMap fun (s, u) =>
    match s.fieldTypes with
    | .ok types => types.zip u.declaration.types
    | .error _ => []

/-- What the names of some units, and the types they write, tell of the types of the fields. -/
structure TellsTypes (schemas : List SchemaNode) (units : List TypeUnit) : Prop where
  /-- A unit bears the bare name of a built-in type wherever a schema does. -/
  bare_name_iff : ∀ name ∈ FieldType.bareNames,
    (∃ u ∈ units, u.typeName.text = name) ↔ ∃ s ∈ schemas, s.id = name
  /-- The units write the types of all fields, and no other types. -/
  written_eq : (writtenTypes schemas units).map Prod.snd = units.flatMap (·.declaration.types)
  /-- What is written tells types apart, but for the bare names of built-in types. -/
  tokens_eq_iff : ∀ w ∈ writtenTypes schemas units, ∀ w' ∈ writtenTypes schemas units,
    w.2.tokens = w'.2.tokens ↔ w.1.resolved = w'.1.resolved
  /-- It tells types apart where no unit bears a bare name, and all named types have a unit. -/
  tokens_eq_iff_of_units : (∀ u ∈ units, u.typeName.text ∉ FieldType.bareNames) →
    ∀ w ∈ writtenTypes schemas units, ∀ w' ∈ writtenTypes schemas units,
      (∀ n, w.1.core = .named n ∨ w'.1.core = .named n → ∃ u ∈ units, u.typeName.text = n) →
        (w.2.tokens = w'.2.tokens ↔ w.1 = w'.1)

variable {schemas : List SchemaNode} {units : List TypeUnit} {w : FieldType × TypeExpr}

theorem expr_eq_of_mem_writtenTypes
    (h : List.Forall₂ (fun s u => TypeUnit.ofSchema c s = .ok u) schemas units)
    (hw : w ∈ writtenTypes schemas units) : w.1.expr = .ok w.2 := by
  obtain ⟨⟨s, u⟩, hsu, hw⟩ := List.mem_flatMap.1 hw
  have hunit := TypeUnit.composes_of_ofSchema (List.forall₂_iff_zip.1 h |>.2 hsu)
  obtain ⟨types, htypes, hall⟩ := Declaration.exists_fieldTypes hunit.declaration_eq
  simp only [htypes] at hw
  exact (List.forall₂_iff_zip.1 hall).2 hw

theorem map_writtenTypes
    (h : List.Forall₂ (fun s u => TypeUnit.ofSchema c s = .ok u) schemas units) :
    (writtenTypes schemas units).map Prod.snd = units.flatMap (·.declaration.types) := by
  induction h with
  | nil => rfl
  | cons hu _ ih =>
    have hunit := TypeUnit.composes_of_ofSchema hu
    obtain ⟨types, htypes, hall⟩ := Declaration.exists_fieldTypes hunit.declaration_eq
    rw [writtenTypes, List.zip_cons_cons, List.flatMap_cons, List.map_append, List.flatMap_cons]
    congr 1
    simp only [htypes]
    exact List.map_snd_zip (Nat.le_of_eq hall.length_eq.symm)

theorem tellsTypes_of_unitsOf {units : List TypeUnit} (h : unitsOf c d = .ok units) :
    ∃ nested, nestedSchemas d.schemas.values = .ok nested ∧
      TellsTypes (d.schemas.values ++ nested) units := by
  obtain ⟨nested, hnested, _, hall⟩ := unitsOf_ok_iff.1 h
  have htokens : ∀ w ∈ writtenTypes (d.schemas.values ++ nested) units,
      ∀ w' ∈ writtenTypes (d.schemas.values ++ nested) units,
        (w.2.tokens = w'.2.tokens ↔ w.1.resolved = w'.1.resolved) := fun w hw w' hw' =>
    FieldType.tokens_eq_iff (expr_eq_of_mem_writtenTypes hall hw)
      (expr_eq_of_mem_writtenTypes hall hw')
  refine ⟨nested, hnested, {
    bare_name_iff := fun name _ => ?_
    written_eq := map_writtenTypes hall
    tokens_eq_iff := htokens
    tokens_eq_iff_of_units := fun hbare w hw w' hw' hunits => ?_ }⟩
  · have hnames := texts_of_forall₂ hall
    have hmem : name ∈ units.map (fun u => u.typeName.text) ↔
        name ∈ (d.schemas.values ++ nested).map SchemaNode.id := by rw [hnames]
    simpa only [List.mem_map] using hmem
  · have hself : ∀ t : FieldType,
        (∀ n, t.core = .named n → ∃ u ∈ units, u.typeName.text = n) → t.resolved = t := by
      refine fun t ht => FieldType.resolved_eq_self fun n hn => ?_
      obtain ⟨u, hu, rfl⟩ := ht n hn
      exact hbare u hu
    rw [htokens w hw w' hw', hself w.1 fun n hn => hunits n (Or.inl hn),
      hself w'.1 fun n hn => hunits n (Or.inr hn)]

/-- A document whose schemas bear no bare names, with an optional text and a list of references. -/
def thumbnailDocument : Document where
  name := "youtube"
  version := "v3"
  schemas := [("Video",
      { id := "Video", kind := some .object
        properties := [("title", .of .string),
          ("thumbnails", .arrayOf (.referTo "Thumbnail"))] }),
    ("Thumbnail", { id := "Thumbnail", kind := some .object })]

theorem tellsTypes_thumbnail :
    ∃ c units nested, Context.ofDocument thumbnailDocument = .ok c ∧
      unitsOf c thumbnailDocument = .ok units ∧
      nestedSchemas thumbnailDocument.schemas.values = .ok nested ∧
      TellsTypes (thumbnailDocument.schemas.values ++ nested) units ∧
      (∀ u ∈ units, u.typeName.text ∉ FieldType.bareNames) ∧
      (writtenTypes (thumbnailDocument.schemas.values ++ nested) units).map Prod.fst =
        [.option .string, .list (.named "Thumbnail")] := by
  have hrun : (do
      let c ← Run.context thumbnailDocument
      let units ← unitsOf c thumbnailDocument
      let nested ← (nestedSchemas thumbnailDocument.schemas.values).mapError (.error ∘ .shape)
      return (units.map fun u => u.typeName.text,
        (writtenTypes (thumbnailDocument.schemas.values ++ nested) units).map Prod.fst)) =
        (.ok (["Video", "Thumbnail"], [.option .string, .list (.named "Thumbnail")]) :
          Outcome (List String × List FieldType)) := by
    decide +kernel
  obtain ⟨c, hc, h⟩ := Outcome.bind_ok_iff.1 hrun
  obtain ⟨units, hunits, h⟩ := Outcome.bind_ok_iff.1 h
  obtain ⟨nested, hnested, h⟩ := Outcome.bind_ok_iff.1 h
  simp only [pure, Except.pure, Except.ok.injEq, Prod.mk.injEq] at h
  obtain ⟨hnames, htypes⟩ := h
  have hnested := Outcome.mapError_ok_iff.1 hnested
  obtain ⟨found, hfound, htells⟩ := tellsTypes_of_unitsOf hunits
  obtain rfl : nested = found := Except.ok.inj (hnested.symm.trans hfound)
  refine ⟨c, units, nested, Outcome.mapError_ok_iff.1 hc, hunits, hnested, htells, ?_, htypes⟩
  have hbare : ∀ name ∈ ["Video", "Thumbnail"], name ∉ FieldType.bareNames := by decide
  intro u hu
  exact hbare _ (hnames ▸ List.mem_map_of_mem hu)

/-- A document with a schema that bears the name of the built-in text type, and another schema with
a field of each of the two types. -/
def namesakeDocument : Document where
  name := "youtube"
  version := "v3"
  schemas := [("String", { id := "String", kind := some .object }),
    ("Video",
      { id := "Video", kind := some .object
        properties := [("title", { kind := some .string, required := true }),
          ("link", { reference := some "String", required := true })] })]

/-- This document becomes a module that writes two types alike. -/
theorem writes_alike_namesake :
    ∃ d c units nested,
      Document.load "youtube.json" (some namesakeDocument.encode.render) = .ok d ∧
      Context.ofDocument d = .ok c ∧ unitsOf c d = .ok units ∧
      nestedSchemas d.schemas.values = .ok nested ∧
      (∃ u ∈ units, u.typeName.text = "String") ∧
      ∃ w ∈ writtenTypes (d.schemas.values ++ nested) units,
        ∃ w' ∈ writtenTypes (d.schemas.values ++ nested) units,
          w.1 = .string ∧ w'.1 = .named "String" ∧ w.2.tokens = w'.2.tokens := by
  have hrun : (do
      let d ← Document.load "youtube.json" (some namesakeDocument.encode.render)
      let c ← Run.context d
      let units ← unitsOf c d
      let nested ← (nestedSchemas d.schemas.values).mapError (.error ∘ .shape)
      return (units.map fun u => u.typeName.text,
        (writtenTypes (d.schemas.values ++ nested) units).map fun w => (w.1, w.2.tokens))) =
        (.ok (["String", "Video"], [(.string, ["String"]), (.named "String", ["String"])]) :
          Outcome (List String × List (FieldType × List String))) := by
    rw [Document.load_render]
    decide +kernel
  obtain ⟨d, hd, h⟩ := Outcome.bind_ok_iff.1 hrun
  obtain ⟨c, hc, h⟩ := Outcome.bind_ok_iff.1 h
  obtain ⟨units, hunits, h⟩ := Outcome.bind_ok_iff.1 h
  obtain ⟨nested, hnested, h⟩ := Outcome.bind_ok_iff.1 h
  simp only [pure, Except.pure, Except.ok.injEq, Prod.mk.injEq] at h
  obtain ⟨hnames, hwritten⟩ := h
  have hunit : "String" ∈ units.map fun u => u.typeName.text := by simp [hnames]
  have hmem : ∀ p ∈ [(FieldType.string, ["String"]), (FieldType.named "String", ["String"])],
      ∃ w ∈ writtenTypes (d.schemas.values ++ nested) units, (w.1, w.2.tokens) = p := by
    intro p hp
    rw [← hwritten] at hp
    exact List.mem_map.1 hp
  obtain ⟨w, hw, heq⟩ := hmem _ List.mem_cons_self
  obtain ⟨w', hw', heq'⟩ := hmem _ (List.mem_cons_of_mem _ List.mem_cons_self)
  obtain ⟨htype, htokens⟩ := Prod.mk.inj heq
  obtain ⟨htype', htokens'⟩ := Prod.mk.inj heq'
  exact ⟨d, c, units, nested, hd, Outcome.mapError_ok_iff.1 hc, hunits,
    Outcome.mapError_ok_iff.1 hnested, List.mem_map.1 hunit, w, hw, w', hw', htype, htype',
    htokens.trans htokens'.symm⟩

end SourceModule

end ApiTypes

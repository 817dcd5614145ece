import ApiTypes.Document.Encode
import ApiTypes.Proofs.CrossReference
import ApiTypes.Proofs.LoadedDocument
import ApiTypes.Proofs.UnitList

/-!
The markers of the standard classifier, told by the methods of a document. The classifier looks at no
method: it sees the uses of a schema in the cross-reference, and these are the uses by methods that
take or return the schema or whose resource bears exactly its name.
-/
namespace ApiTypes
variable {c : Context} {d : Document} {m : Method} {s : SchemaNode} {u : TypeUnit} {schema : String}
  {methods : List Method} {units : List TypeUnit} {nested : List SchemaNode}

/-- The method takes or returns the schema. -/
def Method.RefersTo (m : Method) (schema : String) : Prop :=
  ∃ r, m.roleReference r = some ⟨schema⟩

theorem Method.refersTo_iff :
    m.RefersTo schema ↔ m.request = some ⟨schema⟩ ∨ m.response = some ⟨schema⟩ := by
  constructor
  · rintro ⟨r, h⟩
    cases r with
    | request => exact Or.inl h
    | response => exact Or.inr h
  · rintro (h | h)
    · exact ⟨.request, h⟩
    · exact ⟨.response, h⟩

theorem Method.uses_iff :
    m.Uses schema ↔ m.RefersTo schema ∨ m.resourceType? = some schema := by
  rw [refersTo_iff, or_assoc]
  rfl

theorem any_usesOf {p : String × RoleSet → Bool} :
    (usesOf methods schema).any p = true ↔
      ∃ m ∈ methods, m.Uses schema ∧ p (m.id, m.rolesOf schema) = true := by
  simp [usesOf]

theorem isEmpty_usesOf :
    (usesOf methods schema).isEmpty = true ↔ ∀ m ∈ methods, ¬ m.Uses schema := by
  simp [usesOf]

namespace Classifier

/-- The standard classifier sees the uses of a schema by the registered methods, and no more. -/
theorem standard_eq (h : c.Registered methods) (k : Marker) :
    standard s c.activities k =
      match k with
      | .part => (usesOf methods s.id).isEmpty
      | .resource => (usesOf methods s.id).any (isOnResourceOf s.id ·.1)
      | .responseResult => (usesOf methods s.id).any (·.2.response)
      | .requestValue => (usesOf methods s.id).any (·.2.request)
      | .nestedType => s.nested := by
  rw [← h.getD_activitiesOf]
  rfl

theorem isOnResourceOf_iff :
    isOnResourceOf schema m.id = true ↔
      ∃ t, m.resourceType? = some t ∧ Text.sameIgnoringCase t schema = true := by
  simp [isOnResourceOf, Method.resourceType?, Option.any_eq_true]

end Classifier

namespace Context

theorem classifier_register {c' : Context} (h : c.register m = .ok c') :
    c'.classifier = c.classifier := by
  unfold register at h
  split at h
  · cases h
  · split at h
    · cases h
    · cases h
      rfl

theorem classifier_foldlM {c' : Context} (h : methods.foldlM register c = .ok c') :
    c'.classifier = c.classifier := by
  induction methods generalizing c with
  | nil =>
    cases h
    rfl
  | cons m rest ih =>
    rw [List.foldlM_cons] at h
    obtain ⟨c₁, hc₁, h⟩ := Outcome.bind_ok_iff.1 h
    exact (ih h).trans (classifier_register hc₁)

theorem classifier_ofDocument (h : ofDocument d = .ok c) : c.classifier = .standard := by
  rw [ofDocument_eq_foldlM] at h
  exact classifier_foldlM h

/-- A marker is given when the standard classifier gives it. -/
theorem mem_markers_iff (h : ofDocument d = .ok c) {k : Marker} :
    k ∈ c.markers s ↔ Classifier.standard s c.activities k = true := by
  cases k <;> simp [markers, Marker.all, classifier_ofDocument h]

theorem requestValue_mem_markers_iff (h : ofDocument d = .ok c) :
    .requestValue ∈ c.markers s ↔ ∃ m, d.root.Holds m ∧ m.request = some ⟨s.id⟩ := by
  rw [mem_markers_iff h, Classifier.standard_eq (registered_of_ofDocument h), any_usesOf]
  refine exists_congr fun m => and_congr Resource.mem_allMethods_iff ?_
  simp only [Method.rolesOf, decide_eq_true_eq, and_iff_right_iff_imp]
  exact Or.inl

theorem responseResult_mem_markers_iff (h : ofDocument d = .ok c) :
    .responseResult ∈ c.markers s ↔ ∃ m, d.root.Holds m ∧ m.response = some ⟨s.id⟩ := by
  rw [mem_markers_iff h, Classifier.standard_eq (registered_of_ofDocument h), any_usesOf]
  refine exists_congr fun m => and_congr Resource.mem_allMethods_iff ?_
  simp only [Method.rolesOf, decide_eq_true_eq, and_iff_right_iff_imp]
  exact fun hresponse => Or.inr (Or.inl hresponse)

theorem nestedType_mem_markers_iff (h : ofDocument d = .ok c) :
    .nestedType ∈ c.markers s ↔ s.nested = true := by
  rw [mem_markers_iff h]
  rfl

theorem part_mem_markers_iff (h : ofDocument d = .ok c) :
    .part ∈ c.markers s ↔
      ∀ m, d.root.Holds m → ¬ m.RefersTo s.id ∧ m.resourceType? ≠ some s.id := by
  rw [mem_markers_iff h, Classifier.standard_eq (registered_of_ofDocument h), isEmpty_usesOf]
  simp only [Method.uses_iff, not_or, ne_eq, Resource.mem_allMethods_iff]

/-- Where no method uses a schema, there is nothing else that a method could mark it as. -/
theorem not_mem_markers_of_part (h : ofDocument d = .ok c) (hpart : .part ∈ c.markers s) :
    .resource ∉ c.markers s ∧ .requestValue ∉ c.markers s ∧ .responseResult ∉ c.markers s := by
  simp only [mem_markers_iff h, Classifier.standard_eq (registered_of_ofDocument h),
    List.isEmpty_iff] at hpart ⊢
  simp [hpart]

end Context

/-- A unit has an accessor exactly when its schema is marked as a request. -/
theorem TypeUnit.isSome_accessor_iff (h : ofSchema c s = .ok u) :
    u.accessor.isSome = true ↔ .requestValue ∈ c.markers s := by
  simp only [ofSchema, Outcome.bind_ok_iff] at h
  obtain ⟨_, _, _, _, _, _, h⟩ := h
  split at h
  next hrequest =>
    obtain ⟨_, haccessor, hu⟩ := Outcome.bind_ok_iff.1 h
    obtain ⟨_, _, rfl⟩ := Outcome.map_ok_iff.1 haccessor
    cases hu
    simpa using hrequest
  next hrequest =>
    cases h
    simpa using hrequest

theorem nested_of_mem_nestedSchemas {catalog : List SchemaNode}
    (h : nestedSchemas catalog = .ok nested) (hs : s ∈ nested) : s.nested = true := by
  obtain ⟨_, _, _, _, _, _, _, _, rfl⟩ := exists_parent h hs
  rfl

namespace SourceModule

/-- The units of a document are those of the catalog and, behind them, those of anonymous objects. -/
theorem exists_append_of_unitsOf (h : unitsOf c d = .ok units) :
    ∃ nested own rest, nestedSchemas d.schemas.values = .ok nested ∧ units = own ++ rest ∧
      List.Forall₂ (fun s u => TypeUnit.ofSchema c s = .ok u) d.schemas.values own ∧
      List.Forall₂ (fun s u => TypeUnit.ofSchema c s = .ok u) nested rest := by
  obtain ⟨nested, hnested, _, hall⟩ := unitsOf_ok_iff.1 h
  have hown := List.forall₂_take d.schemas.values.length hall
  have hrest := List.forall₂_drop d.schemas.values.length hall
  rw [List.take_left] at hown
  rw [List.drop_left] at hrest
  exact ⟨nested, _, _, hnested, (List.take_append_drop ..).symm, hown, hrest⟩

theorem isSome_accessor_iff_of_mem (hc : Context.ofDocument d = .ok c)
    (h : unitsOf c d = .ok units) (hu : u ∈ units) :
    u.accessor.isSome = true ↔ ∃ m, d.root.Holds m ∧ m.request = some ⟨u.typeName.text⟩ := by
  obtain ⟨_, _, _, hall⟩ := unitsOf_ok_iff.1 h
  obtain ⟨s, _, hs⟩ := Outcome.exists_of_forall₂ hall hu
  rw [TypeUnit.isSome_accessor_iff hs, Context.requestValue_mem_markers_iff hc,
    TypeUnit.text_typeName hs]

theorem nestedType_mem_iff_of_ofSchema (hc : Context.ofDocument d = .ok c)
    (h : TypeUnit.ofSchema c s = .ok u) : .nestedType ∈ u.markers ↔ s.nested = true := by
  rw [(TypeUnit.composes_of_ofSchema h).markers_eq, Context.nestedType_mem_markers_iff hc]

/-- Of a loaded document, the units behind those of the catalog are marked as nested, and no
others. -/
theorem exists_append_nestedType (hc : Context.ofDocument d = .ok c) {path : String}
    {text : Option String} (hload : Document.load path text = .ok d)
    (h : unitsOf c d = .ok units) :
    ∃ own rest, units = own ++ rest ∧ own.length = d.schemas.length ∧
      (∀ u ∈ own, .nestedType ∉ u.markers) ∧ ∀ u ∈ rest, .nestedType ∈ u.markers := by
  obtain ⟨nested, own, rest, hnested, rfl, hown, hrest⟩ := exists_append_of_unitsOf h
  refine ⟨own, rest, rfl, ?_, fun u hu => ?_, fun u hu => ?_⟩
  · rw [← hown.length_eq]
    exact List.length_map ..
  · obtain ⟨s, hs, hsu⟩ := Outcome.exists_of_forall₂ hown hu
    rw [nestedType_mem_iff_of_ofSchema hc hsu, Document.nested_of_load hload hs]
    exact Bool.false_ne_true
  · obtain ⟨s, hs, hsu⟩ := Outcome.exists_of_forall₂ hrest hu
    rw [nestedType_mem_iff_of_ofSchema hc hsu]
    exact nested_of_mem_nestedSchemas hnested hs

end SourceModule

/-- The markers of a schema say what the methods of a document do with it. -/
structure MarkersTell (d : Document) (s : SchemaNode) (markers : List Marker) : Prop where
  requestValue_iff : .requestValue ∈ markers ↔ ∃ m, d.root.Holds m ∧ m.request = some ⟨s.id⟩
  responseResult_iff : .responseResult ∈ markers ↔ ∃ m, d.root.Holds m ∧ m.response = some ⟨s.id⟩
  nestedType_iff : .nestedType ∈ markers ↔ s.nested = true
  part_iff : .part ∈ markers ↔
    ∀ m, d.root.Holds m → ¬ m.RefersTo s.id ∧ m.resourceType? ≠ some s.id
  part_alone : .part ∈ markers →
    .resource ∉ markers ∧ .requestValue ∉ markers ∧ .responseResult ∉ markers

namespace Context

/-- The markers of every schema follow from the methods anywhere in the document, and with them the
accessors and the nested types among its units. -/
theorem markers_follow_methods (h : ofDocument d = .ok c) :
    (∀ s, MarkersTell d s (c.markers s)) ∧
      ∀ path text, Document.load path text = .ok d →
        ∀ units, SourceModule.unitsOf c d = .ok units →
          (∀ u ∈ units, u.accessor.isSome = true ↔
            ∃ m, d.root.Holds m ∧ m.request = some ⟨u.typeName.text⟩) ∧
          ∃ own rest, units = own ++ rest ∧ own.length = d.schemas.length ∧
            (∀ u ∈ own, .nestedType ∉ u.markers) ∧ ∀ u ∈ rest, .nestedType ∈ u.markers := by
  refine ⟨fun s => ?_, fun path text hload units hunits => ⟨fun u hu => ?_, ?_⟩⟩
  · exact {
      requestValue_iff := requestValue_mem_markers_iff h
      responseResult_iff := responseResult_mem_markers_iff h
      nestedType_iff := nestedType_mem_markers_iff h
      part_iff := part_mem_markers_iff h
      part_alone := not_mem_markers_of_part h }
  · exact SourceModule.isSome_accessor_iff_of_mem h hunits hu
  · exact SourceModule.exists_append_nestedType h hload hunits

/-- A document with a method that takes a schema of the catalog, and further down a method that
takes the anonymous object in it. -/
def videoDocument : Document where
  name := "youtube"
  version := "v3"
  schemas := [("Video",
    { id := "Video", kind := some .object
      properties := [("snippet", .ofFields [("title", .of .string)])] })]
  resources := [("videos",
    { methods := [("insert", { id := "youtube.videos.insert", request := some ⟨"Video"⟩ })]
      resources := [("snippets",
        { methods := [("tag",
            { id := "youtube.videos.snippets.tag", request := some ⟨"VideoSnippet"⟩ })] })] })]

theorem markers_follow_methods_video :
    ∃ d c units, Document.load "youtube.json" (some videoDocument.encode.render) = .ok d ∧
      ofDocument d = .ok c ∧ SourceModule.unitsOf c d = .ok units ∧
      (∀ s, s.id ∈ ["Video", "VideoSnippet"] →
        .requestValue ∈ c.markers s ∧ .part ∉ c.markers s) ∧
      units.map (fun u => u.typeName.text) = ["Video", "VideoSnippet"] ∧
      (∀ u ∈ units, u.accessor.isSome = true) ∧
      ∃ own rest, units = own ++ rest ∧ own.length = 1 ∧
        (∀ u ∈ own, .nestedType ∉ u.markers) ∧ ∀ u ∈ rest, .nestedType ∈ u.markers := by
  have hrun : (do
      let d ← Document.load "youtube.json" (some videoDocument.encode.render)
      let c ← Run.context d
      let units ← SourceModule.unitsOf c d
      return (d.root.allMethods, d.schemas.length, units.map fun u => u.typeName.text)) =
        (.ok (videoDocument.root.allMethods, 1, ["Video", "VideoSnippet"]) : Outcome _) := by
    rw [Document.load_render]
    decide +kernel
  obtain ⟨d, hd, h⟩ := Outcome.bind_ok_iff.1 hrun
  obtain ⟨c, hc, h⟩ := Outcome.bind_ok_iff.1 h
  obtain ⟨units, hunits, h⟩ := Outcome.bind_ok_iff.1 h
  simp only [pure, Except.pure, Except.ok.injEq, Prod.mk.injEq] at h
  obtain ⟨hmethods, hlength, hnames⟩ := h
  have hc := Outcome.mapError_ok_iff.1 hc
  obtain ⟨hmarkers, hrest⟩ := markers_follow_methods hc
  obtain ⟨haccessor, hnested⟩ := hrest _ _ hd units hunits
  rw [hlength] at hnested
  have htaken : ∀ name ∈ ["Video", "VideoSnippet"],
      ∃ m, d.root.Holds m ∧ m.request = some ⟨name⟩ := by
    simp only [← Resource.mem_allMethods_iff, hmethods]
    decide +kernel
  refine ⟨d, c, units, hd, hc, hunits, fun s hs => ?_, hnames, fun u hu => ?_, hnested⟩
  · have hrequest := (hmarkers s).requestValue_iff.2 (htaken s.id hs)
    exact ⟨hrequest, fun hpart => ((hmarkers s).part_alone hpart).2.1 hrequest⟩
  · have hname : u.typeName.text ∈ units.map fun u => u.typeName.text := List.mem_map_of_mem hu
    rw [hnames] at hname
    exact (haccessor u hu).2 (htaken _ hname)

/-- A schema is marked as a resource by the methods of a resource of its name. Where the names are
alike but for case, the methods count that take or return the schema, and no others. -/
theorem resource_mem_markers_iff (h : ofDocument d = .ok c) :
    .resource ∈ c.markers s ↔
      ∃ m, d.root.Holds m ∧ ∃ type, m.resourceType? = some type ∧
        (type = s.id ∨ Text.sameIgnoringCase type s.id = true ∧ m.RefersTo s.id) := by
  rw [mem_markers_iff h, Classifier.standard_eq (registered_of_ofDocument h), any_usesOf]
  refine exists_congr fun m => and_congr Resource.mem_allMethods_iff ?_
  rw [Classifier.isOnResourceOf_iff, Method.uses_iff]
  constructor
  · rintro ⟨huses, type, htype, hsame⟩
    refine ⟨type, htype, ?_⟩
    rcases huses with hrefers | hexact
    · exact Or.inr ⟨hsame, hrefers⟩
    · rw [htype] at hexact
      exact Or.inl (Option.some.inj hexact)
  · rintro ⟨type, htype, rfl | ⟨hsame, hrefers⟩⟩
    · exact ⟨Or.inr htype, _, htype, beq_self_eq_true _⟩
    · exact ⟨Or.inl hrefers, type, htype, hsame⟩

/-- A document with a schema that is named like a resource further down but for case, and a method
of this resource that takes the schema. -/
def capitalDocument : Document where
  name := "youtube"
  version := "v3"
  schemas := [("LIVECHAT", { id := "LIVECHAT", kind := some .object })]
  resources := [("live",
    { resources := [("chats",
        { methods := [("insert",
            { id := "youtube.live.chats.insert", request := some ⟨"LIVECHAT"⟩ })] })] })]

theorem resource_mem_markers_capital :
    ∃ c, ofDocument capitalDocument = .ok c ∧
      ∀ s ∈ capitalDocument.schemas.values, .resource ∈ c.markers s := by
  obtain ⟨c, hc, _⟩ := ofDocument_of_registrable (d := capitalDocument)
    ⟨by decide +kernel, by decide +kernel⟩
  refine ⟨c, hc, fun s hs => ?_⟩
  obtain rfl := List.mem_singleton.1 hs
  have hbelow : capitalDocument.root.HoldsAt (.sub 0 (.sub 0 (.own 0)))
      { id := "youtube.live.chats.insert", request := some ⟨"LIVECHAT"⟩ } :=
    .sub rfl (.sub rfl (.own rfl))
  exact (resource_mem_markers_iff hc).2 ⟨_, ⟨_, hbelow⟩, "LiveChat", by decide +kernel,
    Or.inr ⟨by decide, .request, rfl⟩⟩

/-- A document whose schema and resource are named alike but for case, and no method refers to the
schema. -/
def sectionDocument : Document where
  name := "youtube"
  version := "v3"
  schemas := [("ChannelSection", { id := "ChannelSection", kind := some .object })]
  resources := [("channelsections",
    { methods := [("list", { id := "youtube.channelsections.list" })] })]

/-- The schema of this document is no resource. -/
theorem resource_not_mem_markers_section :
    ∃ d c, Document.load "youtube.json" (some sectionDocument.encode.render) = .ok d ∧
      ofDocument d = .ok c ∧
      ∃ s ∈ d.schemas.values,
        (∃ m, d.root.Holds m ∧ ∃ type, m.resourceType? = some type ∧
          Text.sameIgnoringCase type s.id = true) ∧
        .resource ∉ c.markers s := by
  have hrun : (do
      let d ← Document.load "youtube.json" (some sectionDocument.encode.render)
      let c ← Run.context d
      return d.schemas.values.any fun s =>
        (d.root.allMethods.any fun m => m.resourceType?.any (Text.sameIgnoringCase · s.id)) &&
          !(c.markers s).contains .resource) = (.ok true : Outcome _) := by
    rw [Document.load_render]
    decide +kernel
  obtain ⟨d, hd, h⟩ := Outcome.bind_ok_iff.1 hrun
  obtain ⟨c, hc, h⟩ := Outcome.bind_ok_iff.1 h
  have hany := Except.ok.inj h
  simp only [List.any_eq_true, Option.any_eq_true, Bool.and_eq_true, Bool.not_eq_true',
    List.contains_eq_mem, decide_eq_false_iff_not, Resource.mem_allMethods_iff] at hany
  exact ⟨d, c, hd, Outcome.mapError_ok_iff.1 hc, hany⟩

end Context

end ApiTypes

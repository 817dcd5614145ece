import ApiTypes.Proofs.StandardMarkers

/-!
The code of one schema in two documents. Of a context, the code of a schema reads nothing but the
uses of that schema, and these are made by the methods that use it. So documents may differ in all
other schemas and methods, and in the resources that hold them, and the code stays the same.
-/
namespace ApiTypes
variable {c c' : Context} {d d' : Document} {m m' : Method} {s : SchemaNode} {schema : String}

/-- The methods have one name, and use the schema in the same roles. -/
def Method.UsesAlike (schema : String) (m m' : Method) : Prop :=
  m.id = m'.id ∧ ∀ r, m.roleReference r = some ⟨schema⟩ ↔ m'.roleReference r = some ⟨schema⟩

theorem Method.usesAlike_iff :
    m.UsesAlike schema m' ↔ m.id = m'.id ∧ m.rolesOf schema = m'.rolesOf schema := by
  refine and_congr_right fun _ => ⟨fun h => ?_, fun h r => ?_⟩
  · simp only [rolesOf, RoleSet.mk.injEq, decide_eq_decide]
    exact ⟨h .request, h .response⟩
  · rw [← contains_rolesOf, ← contains_rolesOf, h]

instance (schema : String) (m m' : Method) : Decidable (m.UsesAlike schema m') :=
  decidable_of_iff _ Method.usesAlike_iff.symm

/-- The methods that use the schema are alike in both documents, and come in the same order. -/
def Document.UsesAlike (schema : String) (d d' : Document) : Prop :=
  ∃ methods methods', d.root.MethodsInOrder methods ∧ d'.root.MethodsInOrder methods' ∧
    List.Forall₂ (Method.UsesAlike schema) (methods.filter (·.Uses schema))
      (methods'.filter (·.Uses schema))

theorem Document.usesAlike_iff :
    d.UsesAlike schema d' ↔
      List.Forall₂ (Method.UsesAlike schema) (d.root.allMethods.filter (·.Uses schema))
        (d'.root.allMethods.filter (·.Uses schema)) := by
  simp only [UsesAlike, Resource.methodsInOrder_iff, exists_and_left, exists_eq_left]

instance (schema : String) (d d' : Document) : Decidable (d.UsesAlike schema d') :=
  decidable_of_iff _ Document.usesAlike_iff.symm

theorem Document.UsesAlike.usesOf_eq (h : d.UsesAlike schema d') :
    usesOf d.root.allMethods schema = usesOf d'.root.allMethods schema := by
  rw [usesOf, usesOf, ← List.forall₂_eq_eq_eq, List.forall₂_map_left_iff,
    List.forall₂_map_right_iff]
  exact (usesAlike_iff.1 h).imp fun _ _ hm => Prod.ext_iff.2 (Method.usesAlike_iff.1 hm)

/-- The standard classifier reads nothing but the uses of the schema. -/
theorem Classifier.standard_congr {t t' : UsageTable} (h : Table.get? t s.id = Table.get? t' s.id)
    (k : Marker) : standard s t k = standard s t' k := by
  simp only [standard, h]

namespace Context

theorem markers_congr (hc : c.classifier = .standard) (hc' : c'.classifier = .standard)
    (h : c.activitiesOf s.id = c'.activitiesOf s.id) : c.markers s = c'.markers s := by
  rw [markers, markers, hc, hc']
  exact List.filter_congr fun k _ => Classifier.standard_congr h k

/-- Documents that use a schema alike have the same entry for it in their contexts. -/
theorem activitiesOf_congr (hc : ofDocument d = .ok c) (hc' : ofDocument d' = .ok c')
    (h : d.UsesAlike schema d') : c.activitiesOf schema = c'.activitiesOf schema := by
  rw [(registered_of_ofDocument hc).activitiesOf_eq, (registered_of_ofDocument hc').activitiesOf_eq,
    h.usesOf_eq]

end Context

theorem Header.lines_congr (h : c.activitiesOf s.id = c'.activitiesOf s.id) :
    lines s c = lines s c' := by
  simp only [lines, sections, activities, h]

namespace TypeUnit

/-- The code of a schema reads nothing of a context but the uses of the schema. -/
theorem ofSchema_congr (hc : c.classifier = .standard) (hc' : c'.classifier = .standard)
    (h : c.activitiesOf s.id = c'.activitiesOf s.id) : ofSchema c s = ofSchema c' s := by
  rw [ofSchema, ofSchema, Header.lines_congr h, Context.markers_congr hc hc' h]

/-- Documents that use a schema alike make the same code of it, or fail alike. -/
theorem ofSchema_eq_of_usesAlike (hc : Context.ofDocument d = .ok c)
    (hc' : Context.ofDocument d' = .ok c') (h : d.UsesAlike s.id d') :
    ofSchema c s = ofSchema c' s :=
  ofSchema_congr (Context.classifier_ofDocument hc) (Context.classifier_ofDocument hc')
    (Context.activitiesOf_congr hc hc' h)

/-- A schema that one method takes and returns, and another method works on. -/
def playlist : SchemaNode :=
  { id := "Playlist", kind := some .object, properties := [("title", .of .string)] }

/-- A document with two methods that use the schema, in one resource. -/
def flatDocument : Document where
  name := "youtube"
  version := "v3"
  schemas := [("Playlist", playlist)]
  resources := [("playlists",
    { methods :=
        [("update", { id := "youtube.playlists.update", request := some ⟨"Playlist"⟩ }),
          ("delete", { id := "youtube.playlists.delete" })] })]

/-- A document with the same two methods further down in other resources, with a method and a
schema that have nothing to do with the schema before and between them. -/
def deepDocument : Document where
  name := "youtube"
  version := "v4"
  schemas := [("Video", { id := "Video", kind := some .object }), ("Playlist", playlist)]
  resources := [("videos",
      { methods := [("insert", { id := "youtube.videos.insert", request := some ⟨"Video"⟩ })]
        resources := [("lists",
          { methods := [("change",
              { id := "youtube.playlists.update", request := some ⟨"Playlist"⟩
                response := some ⟨"Video"⟩ })] })] }),
    ("captions",
      { methods := [("list", { id := "youtube.captions.list", response := some ⟨"Video"⟩ }),
          ("drop", { id := "youtube.playlists.delete" })] })]

theorem ofSchema_eq_of_usesAlike_playlist :
    ∃ c c' u, Context.ofDocument flatDocument = .ok c ∧
      Context.ofDocument deepDocument = .ok c' ∧ flatDocument.UsesAlike playlist.id deepDocument ∧
      ofSchema c playlist = .ok u ∧ ofSchema c' playlist = .ok u ∧
      u.markers = [.resource, .requestValue] := by
  have hrun : (do
      let c ← Run.context flatDocument
      let u ← ofSchema c playlist
      return u.markers) = (.ok [.resource, .requestValue] : Outcome _) := by
    decide +kernel
  obtain ⟨c, hc, h⟩ := Outcome.bind_ok_iff.1 hrun
  obtain ⟨u, hu, hmarkers⟩ := Outcome.bind_ok_iff.1 h
  have hc := Outcome.mapError_ok_iff.1 hc
  obtain ⟨c', hc', _⟩ := Context.ofDocument_of_registrable (d := deepDocument)
    ⟨by decide +kernel, by decide +kernel⟩
  have halike : flatDocument.UsesAlike playlist.id deepDocument := by decide +kernel
  have hsame := ofSchema_eq_of_usesAlike hc hc' halike
  exact ⟨c, c', u, hc, hc', halike, hu, hsame ▸ hu, Except.ok.inj hmarkers⟩

end TypeUnit

end ApiTypes

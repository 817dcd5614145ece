import ApiTypes.Proofs.HeaderSections
import ApiTypes.Proofs.ResolvedFields
import ApiTypes.Run

/-!
Arrays of anonymous objects are declared as the objects themselves. Fields, declaration, nested
types, markers and accessor each look at the shape of the schema, and none of them looks further
than the fields in it; only the documentation tells the array from the object.
-/
namespace ApiTypes
open Text

variable {c : Context} {s o : SchemaNode}

/-- Says that a type is a list of its own elements; only the documentation of the array does. -/
def Header.listNote (id : String) : String :=
  note (.list (.named id))

namespace SchemaNode

/-- The array `s` has the objects as its items that `o` declares under the same name. What else the
two schemas and the items hold may differ. -/
structure FlattensTo (s o : SchemaNode) : Prop where
  array : s.kind = some .array
  items : ∃ items, s.items = some items ∧ items.kind = some .object ∧
    items.properties = some o.properties
  object : o.kind = some .object
  id_eq : s.id = o.id
  description_eq : s.description = o.description
  nested_eq : s.nested = o.nested

namespace FlattensTo

theorem shape_array (h : s.FlattensTo o) : s.shape = .ok (.records o.properties) := by
  obtain ⟨items, hitems, hkind, hfields⟩ := h.items
  simp [shape, h.array, hitems, hfields, hkind]

theorem shape_object (h : s.FlattensTo o) : o.shape = .ok (.object o.properties) := by
  simp [shape, h.object]

theorem fields_eq (h : s.FlattensTo o) : Field.ofSchema s = Field.ofSchema o := by
  rw [Field.ofSchema_of_shape (Or.inr h.shape_array),
    Field.ofSchema_of_shape (Or.inl h.shape_object), h.id_eq]

theorem declaration_eq (h : s.FlattensTo o) : Declaration.ofSchema s = Declaration.ofSchema o := by
  rw [Declaration.ofSchema, Declaration.ofSchema, h.shape_array, h.shape_object, h.id_eq]
  rfl

theorem nestedSchemas_eq (h : s.FlattensTo o) : s.nestedSchemas = o.nestedSchemas := by
  rw [nestedSchemas, nestedSchemas, h.shape_array, h.shape_object, h.id_eq]
  rfl

/-- The standard classifier sees names and uses only, and whether a schema is nested. -/
theorem markers_eq (h : s.FlattensTo o) (hc : c.classifier = .standard) :
    c.markers s = c.markers o := by
  rw [Context.markers, Context.markers, hc]
  refine List.filter_congr fun k _ => ?_
  simp only [Classifier.standard, h.id_eq, h.nested_eq]

theorem underlyingType?_array (h : s.FlattensTo o) :
    Header.underlyingType? s = .ok (some (.list (.named o.id))) := by
  rw [Header.underlyingType?, h.shape_array, h.id_eq]
  rfl

theorem underlyingType?_object (h : s.FlattensTo o) : Header.underlyingType? o = .ok none := by
  rw [Header.underlyingType?, h.shape_object]
  rfl

theorem activities_eq (h : s.FlattensTo o) : Header.activities s c = Header.activities o c := by
  rw [Header.activities, Header.activities, h.id_eq]

theorem header_description_eq (h : s.FlattensTo o) :
    Header.description s = Header.description o := by
  rw [Header.description, Header.description, h.description_eq]

theorem sections_eq (h : s.FlattensTo o) :
    Header.sections s c = (· ++ [Header.listNote o.id]) <$> Header.sections o c := by
  rw [Header.sections, Header.sections, h.activities_eq, h.underlyingType?_array,
    h.underlyingType?_object, h.header_description_eq]
  cases Header.activities o c <;> rfl

theorem lines_eq (h : s.FlattensTo o) (hne : c.activitiesOf o.id ≠ some []) :
    Header.lines s c = (· ++ "" :: docLines (Header.listNote o.id)) <$> Header.lines o c := by
  rw [Header.lines, Header.lines, h.sections_eq]
  cases hsections : Header.sections o c with
  | error e => rfl
  | ok sections =>
    obtain ⟨text, htext, hrest⟩ := Outcome.bind_ok_iff.1 hsections
    rw [h.underlyingType?_object] at hrest
    cases hrest
    have hsolid : ∀ part ∈ [Header.description o, text], IsSolid part.toList := by
      simp [(Header.isDescribedAs_description o).isSolid, Header.isSolid_activities htext hne]
    exact congrArg Except.ok (docLines_intercalate_concat (List.cons_ne_nil _ _) hsolid _)

end FlattensTo

end SchemaNode

namespace TypeUnit

/-- In the context, the code of the array `s` is that of the object `o` but for the documentation,
which has one section more. -/
structure DiffersInNote (c : Context) (s o : SchemaNode) : Prop where
  /-- The standard classifier, which is that of every document, marks both alike. -/
  markers_eq : c.classifier = .standard → c.markers s = c.markers o
  unit_eq : c.markers s = c.markers o → ofSchema c s = do
    let u ← ofSchema c o
    return { u with doc := ← (Header.lines s c).mapError .error }
  sections_eq : Header.sections s c = (· ++ [Header.listNote o.id]) <$> Header.sections o c
  /-- Where no list of activities is empty, the note comes behind an empty line. -/
  lines_eq : c.activitiesOf o.id ≠ some [] →
    Header.lines s c = (· ++ "" :: docLines (Header.listNote o.id)) <$> Header.lines o c

theorem ofSchema_of_flattensTo (h : s.FlattensTo o) (hmarkers : c.markers s = c.markers o) :
    ofSchema c s = do
      let u ← ofSchema c o
      return { u with doc := ← (Header.lines s c).mapError .error } := by
  rw [ofSchema, ofSchema, h.id_eq, h.declaration_eq, h.fields_eq, hmarkers]
  simp only [Header.lines, h.sections_eq]
  cases Declaration.typeName o.id with
  | error e => rfl
  | ok i =>
  cases Header.sections o c with
  | error e => rfl
  | ok sections =>
  cases Declaration.ofSchema o with
  | error e => rfl
  | ok d =>
  simp only [Except.mapError, bind, Except.bind, Functor.map, Except.map, pure, Except.pure]
  split
  · cases Field.ofSchema o <;> rfl
  · rfl

end TypeUnit

namespace SchemaNode.FlattensTo

/-- An array of anonymous objects becomes the code that the object with the same fields becomes, or
fails as it does, whatever else the array and its items hold. -/
theorem code_differs_in_note (h : s.FlattensTo o) :
    Field.ofSchema s = Field.ofSchema o ∧
      Declaration.ofSchema s = Declaration.ofSchema o ∧
      s.nestedSchemas = o.nestedSchemas ∧
      ∀ c, TypeUnit.DiffersInNote c s o :=
  ⟨h.fields_eq, h.declaration_eq, h.nestedSchemas_eq, fun _ =>
    ⟨h.markers_eq, TypeUnit.ofSchema_of_flattensTo h, h.sections_eq, h.lines_eq⟩⟩

/-- The fields of a picture, one renamed and one with an object of its own. -/
def thumbnailFields : Table Property :=
  [("videoId", { kind := some .string, required := true }),
    ("size", .ofFields [("width", .of .integer)])]

def thumbnail : SchemaNode :=
  { id := "Thumbnail", kind := some .object, description := some "A picture."
    properties := thumbnailFields }

/-- The pictures as a list, with fields that mean nothing in the list and in its items. -/
def thumbnails : SchemaNode where
  id := "Thumbnail"
  kind := some .array
  description := some "A picture."
  format := some "byte"
  properties := [("count", {})]
  items := some {
    kind := some .object
    description := some "The size varies."
    format := some "int128"
    required := true
    items := some {}
    additional := some {}
    properties := some thumbnailFields }

def thumbnailDocument : Document where
  name := "youtube"
  version := "v3"
  schemas := [("Thumbnail", thumbnails)]
  resources := [("thumbnails",
    { methods :=
        [("set", { id := "youtube.thumbnails.set", request := some ⟨"Thumbnail"⟩ })] })]

theorem code_differs_in_note_thumbnail :
    thumbnails.FlattensTo thumbnail ∧
      ∃ c u, Context.ofDocument thumbnailDocument = .ok c ∧
        TypeUnit.ofSchema c thumbnail = .ok u ∧ u.accessor.isSome = true ∧
        TypeUnit.ofSchema c thumbnails = .ok { u with doc := u.doc ++
          ["", " # Note", "",
            " This type is not an object; its underlying type is `Vec<Thumbnail>`."] } := by
  have hflat : thumbnails.FlattensTo thumbnail :=
    ⟨rfl, ⟨_, rfl, rfl, rfl⟩, rfl, rfl, rfl, rfl⟩
  have hrun : (do
      let c ← Run.context thumbnailDocument
      let u ← TypeUnit.ofSchema c thumbnail
      return u.accessor.isSome) = (.ok true : Outcome _) := by
    decide +kernel
  obtain ⟨c, hc, h⟩ := Outcome.bind_ok_iff.1 hrun
  obtain ⟨u, hu, haccessor⟩ := Outcome.bind_ok_iff.1 h
  have hc := Outcome.mapError_ok_iff.1 hc
  obtain ⟨_, _, _, hdiffers⟩ := code_differs_in_note hflat
  have hne := (Context.registered_of_ofDocument hc).activitiesOf_ne_nil thumbnail.id
  have hlines := (hdiffers c).lines_eq hne
  have hunit := (hdiffers c).unit_eq ((hdiffers c).markers_eq (Context.classifier_ofDocument hc))
  refine ⟨hflat, c, u, hc, hu, Except.ok.inj haccessor, ?_⟩
  rw [hunit, hu, hlines, (TypeUnit.composes_of_ofSchema hu).doc_eq]
  have hnote : docLines (Header.listNote thumbnail.id) =
      [" # Note", "", " This type is not an object; its underlying type is `Vec<Thumbnail>`."] := by
    decide +kernel
  rw [hnote]
  rfl

end SchemaNode.FlattensTo

end ApiTypes

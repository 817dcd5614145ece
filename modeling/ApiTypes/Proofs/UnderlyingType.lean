import ApiTypes.Proofs.OptionalTypes
import ApiTypes.Proofs.UnitFailures

/-!
The type of a list is told twice. The documentation maps the schema itself, seen as a property with
all that it holds; the declaration maps an array of its items and nothing else.
-/
namespace ApiTypes

variable {s : SchemaNode} {items : Property} {element t : FieldType} {e : GenerationError}

/-- What documentation and declaration tell of the type of a list. -/
inductive TellsListType (s : SchemaNode) (items : Property) : Prop
  /-- Both tell one list, and nowhere in its elements stands an option. -/
  | list (element : FieldType) (no_option : ¬ element.HasOption)
      (documented : FieldType.ofProperty s.id FieldType.listElement s.asProperty =
        .ok (.list element))
      (declared : FieldType.ofProperty s.id FieldType.listElement (.arrayOf items) =
        .ok (.list element))
      (sections_eq : ∀ c, Header.sections s c = do
        return [Header.description s, ← Header.activities s c, Header.note (.list element)])
      (declaration_eq : Declaration.ofSchema s = do
        let name ← Declaration.typeName s.id
        return ⟨name, .wrapper (.path ["Vec"] [← element.expr])⟩) :
      TellsListType s items
  /-- Both fail in the same way, once there are activities or a name to go with the type. -/
  | error (e : GenerationError)
      (documented : FieldType.ofProperty s.id FieldType.listElement s.asProperty = .error e)
      (declared : FieldType.ofProperty s.id FieldType.listElement (.arrayOf items) = .error e)
      (sections_eq : ∀ c, Header.sections s c = do
        let _ ← Header.activities s c
        .error e)
      (declaration_eq : Declaration.ofSchema s = do
        let _ ← Declaration.typeName s.id
        Outcome.fail e) :
      TellsListType s items

/-- An array has a list as its type, and its elements have no option, whatever marks they bear. -/
theorem FieldType.exists_of_arrayOf {schema property : String}
    (h : ofProperty schema property (.arrayOf items) = .ok t) :
    ∃ element, t = .list element ∧ ¬ element.HasOption := by
  rw [ofProperty, ofDescriptor_array (p := .arrayOf items) rfl rfl rfl] at h
  obtain ⟨element, helement, rfl⟩ := Outcome.map_ok_iff.1 h
  exact ⟨element, rfl, (outlines_of_ofDescriptor helement).not_hasOption⟩

namespace Header

theorem sections_of_underlyingType? (h : underlyingType? s = .ok (some t)) (c : Context) :
    sections s c = do return [description s, ← activities s c, note t] := by
  rw [sections, h]
  rfl

theorem sections_of_underlyingType?_error (h : underlyingType? s = .error e) (c : Context) :
    sections s c = (do
      let _ ← activities s c
      .error e) := by
  rw [sections, h]
  rfl

end Header

namespace Declaration
variable (hshape : s.shape = .ok (.list items))
include hshape

theorem ofSchema_of_element
    (h : FieldType.ofProperty s.id FieldType.listElement (.arrayOf items) = .ok (.list element)) :
    ofSchema s = do
      let name ← typeName s.id
      return ⟨name, .wrapper (.path ["Vec"] [← element.expr])⟩ := by
  rw [ofSchema_of_list hshape, h]
  refine bind_congr fun name => ?_
  simp only [Except.mapError, FieldType.expr, Except.bind, bind]
  cases element.expr <;> rfl

theorem ofSchema_of_element_error
    (h : FieldType.ofProperty s.id FieldType.listElement (.arrayOf items) = .error e) :
    ofSchema s = (do
      let _ ← typeName s.id
      Outcome.fail e) := by
  rw [ofSchema_of_list hshape, h]
  rfl

end Declaration

/-- The type that the documentation notes below a list is the one that its declaration wraps. -/
theorem tellsListType_of_shape (h : s.shape = .ok (.list items)) : TellsListType s items := by
  have hsame := SchemaNode.ofProperty_asProperty h s.id FieldType.listElement
  have hnoted := Header.underlyingType?_of_list h
  cases hdeclared : FieldType.ofProperty s.id FieldType.listElement (.arrayOf items) with
  | ok t =>
    rw [hdeclared] at hsame hnoted
    obtain ⟨element, rfl, no_option⟩ := FieldType.exists_of_arrayOf hdeclared
    exact .list element no_option hsame hdeclared (Header.sections_of_underlyingType? hnoted)
      (Declaration.ofSchema_of_element h hdeclared)
  | error e =>
    rw [hdeclared] at hsame hnoted
    exact .error e hsame hdeclared (Header.sections_of_underlyingType?_error hnoted)
      (Declaration.ofSchema_of_element_error h hdeclared)

/-- A map that need not be there, with fields that mean nothing in a map. -/
def countsByCountry : Property where
  kind := some .object
  format := some "int128"
  required := false
  items := some {}
  additional := some { kind := some .integer, format := some "int32", required := false }

/-- A list of such maps, with fields that mean nothing in a list. -/
def viewCounts : SchemaNode where
  id := "ViewCounts"
  kind := some .array
  format := some "int128"
  properties := [("total", {})]
  additional := some {}
  items := some countsByCountry

theorem tellsListType_of_shape_viewCounts :
    viewCounts.shape = .ok (.list countsByCountry) ∧
      FieldType.ofProperty "ViewCounts" FieldType.listElement (.arrayOf countsByCountry) =
        .ok (.list (.map .i32)) ∧
      ∀ c, Header.sections viewCounts c = do
        return [Header.noDescription, ← Header.activities viewCounts c,
          "# Note\n\nThis type is not an object; its underlying type is " ++
            "`Vec<HashMap<String, i32>>`."] := by
  have htype : FieldType.ofProperty "ViewCounts" FieldType.listElement
      (.arrayOf countsByCountry) = .ok (.list (.map .i32)) := by
    decide
  refine ⟨rfl, htype, fun c => ?_⟩
  cases tellsListType_of_shape (s := viewCounts) rfl with
  | list element _ _ declared sections_eq =>
    cases declared.symm.trans htype
    exact sections_eq c
  | error _ _ declared => cases declared.symm.trans htype

end ApiTypes

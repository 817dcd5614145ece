import ApiTypes.Proofs.LoadedDocument
import ApiTypes.Proofs.StrayReturn
import ApiTypes.Proofs.UnitFailures
import ApiTypes.Proofs.UnitList

/-!
Documentation that fits on comment lines. Descriptions and activity names are cut into lines before
they are written, and only a carriage return inside a line gets through. The title, the name and the
version of a document are written as they are, so that line ends in them get through as well.
-/
namespace ApiTypes
open Text

/-- The text can be printed as one comment line. -/
def IsSingleLine (line : String) : Prop :=
  '\n' ∉ line.toList ∧ '\r' ∉ line.toList

instance (line : String) : Decidable (IsSingleLine line) :=
  inferInstanceAs (Decidable (_ ∧ _))

/-- The lines of documentation in an item. -/
def Item.docLines : Item → List String
  | declaration doc d => doc ++ d.namedFields.flatMap FieldDecl.doc
  | accessor _ => Accessor.documentation
  | markerTrait m => Text.docLines m.documentationText
  | markerImpl _ _ | codecImport => []

/-- All lines of documentation in a module. -/
def SourceModule.docLines (m : SourceModule) : List String :=
  m.doc ++ m.items.flatMap Item.docLines

/-- The properties that a schema declares as named fields. -/
def SchemaNode.namedProperties (s : SchemaNode) : Table Property :=
  match s.shape with
  | .ok (.object fields) | .ok (.records fields) => fields
  | _ => []

/-- No text that documents the schema has a stray carriage return. -/
structure SchemaNode.FitsLines (c : Context) (s : SchemaNode) : Prop where
  description : hasStrayReturn (Unicode.trim (s.description.getD "").toList) = false
  /-- The list of activities has a bracket after each name. -/
  activities : ∀ uses, c.activitiesOf s.id = some uses → ∀ use ∈ uses,
    ∀ a, ActivityName.ofText? use.1 = some a →
      hasStrayReturn (a.resource ++ "." ++ a.method ++ "]").toList = false
  fields : ∀ p ∈ s.namedProperties, hasStrayReturn (p.2.description.getD "").toList = false

/-- The texts of a document can be documentation: those that are cut into lines have no stray
carriage return, and the others are single lines. -/
structure Document.FitsLines (c : Context) (d : Document) : Prop where
  title : IsSingleLine (d.title.getD d.name)
  name : IsSingleLine d.name
  version : IsSingleLine d.version
  description : hasStrayReturn (d.description.getD "").toList = false
  schemas : ∀ nested, nestedSchemas d.schemas.values = .ok nested →
    ∀ s ∈ d.schemas.values ++ nested, s.FitsLines c

variable {c : Context} {d : Document} {s : SchemaNode} {u : TypeUnit} {m : SourceModule}
  {a : ActivityName} {decl : Declaration} {t : FieldType} {activity item : String}

theorem isSingleLine_append {x y : String} :
    IsSingleLine (x ++ y) ↔ IsSingleLine x ∧ IsSingleLine y := by
  simp only [IsSingleLine, String.toList_append, List.mem_append, not_or]
  tauto

/-- The lines of a text are single lines when no carriage return in it is a stray one. -/
theorem forall_docLines_iff (t : String) :
    (∀ line ∈ Text.docLines t, IsSingleLine line) ↔ hasStrayReturn t.toList = false := by
  rw [← Bool.not_eq_true, ← exists_return_mem_docLines_iff, not_exists]
  refine forall_congr' fun line => ?_
  rw [not_and]
  exact forall_congr' fun h => and_iff_right (newline_not_mem_docLines h)

theorem hasStrayReturn_intercalate_newlines {sep : String} (n : Nat)
    (hsep : sep.toList = List.replicate (n + 1) '\n') (texts : List String) :
    hasStrayReturn (sep.intercalate texts).toList = texts.any (hasStrayReturn ·.toList) := by
  rw [String.toList_intercalate, hsep, hasStrayReturn_intercalate, List.any_map]
  rfl

theorem Marker.return_not_mem_documentationText (m : Marker) :
    '\r' ∉ m.documentationText.toList := by
  have hlines : ∀ line ∈ m.documentation, '\r' ∉ line.toList := by
    cases m <;> decide +kernel
  unfold documentationText
  split
  next line hline => exact hlines line (by simp [hline])
  next => simpa [String.toList_join] using hlines

theorem RoleSet.return_not_mem_shown (roles : RoleSet) : '\r' ∉ roles.shown.toList := by
  obtain ⟨request, response⟩ := roles
  cases request <;> cases response <;> decide

/-- The type that builds the calls of a method is named after it but for visible characters. -/
theorem ActivityName.hasStrayReturn_of_methodBuilderType {resource method : String}
    (h : hasStrayReturn ((methodBuilderType resource method).toList ++ ['.']) = true) :
    hasStrayReturn (resource.toList ++ ('.' :: (method.toList ++ [']']))) = true := by
  have hjoin := Fades.join_capitalize (by decide : Unicode.isBlank '.' = false)
    (pieces '.' resource.toList)
  rw [intercalate_pieces] at hjoin
  have hend : Fades [']'] ("MethodBuilder.".toList ++ []) :=
    .visible (by decide) (forall_of_all_visible (by decide)) .nil
  have hmethod : Fades ('.' :: (method.toList ++ [']']))
      ((capitalize method).toList ++ ("MethodBuilder.".toList ++ [])) :=
    .dropped (by decide) ((Fades.capitalize method).append hend)
  have hsingular := (Fades.singular (String.join ((split '.' resource).map capitalize))).append
    hmethod
  refine (hjoin.append (.refl _)).hasStrayReturn_of_hasStrayReturn
    (hsingular.hasStrayReturn_of_hasStrayReturn ?_)
  simpa [methodBuilderType, resourceTypeName] using h

namespace Header

/-- The list item of an activity has a stray return where the name in it has one: the link is made
of the same name, with other letters. -/
theorem hasStrayReturn_activityLine {roles : RoleSet} (h : activityLine activity roles = .ok item)
    (ha : ActivityName.ofText? activity = some a) :
    hasStrayReturn item.toList =
      hasStrayReturn (a.resource ++ "." ++ a.method ++ "]").toList := by
  rw [activityLine, ha, Except.ok.injEq] at h
  have htext : item.toList =
      "* [".toList ++ (a.resource.toList ++ '.' :: a.method.toList) ++ ']' ::
        ("(struct.".toList ++ (ActivityName.methodBuilderType a.resource a.method).toList ++ '.' ::
          ("html) (".toList ++ roles.shown.toList ++ [')'])) := by
    simp [← h]
  have hname : hasStrayReturn
      ("* [".toList ++ (a.resource.toList ++ '.' :: a.method.toList) ++ [']']) =
        hasStrayReturn (a.resource.toList ++ ('.' :: (a.method.toList ++ [']']))) := by
    rw [List.append_assoc, hasStrayReturn_append_of_not_mem (by decide), List.append_assoc,
      List.cons_append]
  have hlink : hasStrayReturn ("(struct.".toList ++
      (ActivityName.methodBuilderType a.resource a.method).toList ++ ['.']) =
        hasStrayReturn ((ActivityName.methodBuilderType a.resource a.method).toList ++ ['.']) := by
    rw [List.append_assoc, hasStrayReturn_append_of_not_mem (by decide)]
  have hend : hasStrayReturn ("html) (".toList ++ roles.shown.toList ++ [')']) = false :=
    hasStrayReturn_of_not_mem (by simp [roles.return_not_mem_shown])
  have hshown : (a.resource ++ "." ++ a.method ++ "]").toList =
      a.resource.toList ++ ('.' :: (a.method.toList ++ [']'])) := by
    simp
  rw [htext, hasStrayReturn_append_visible (c := ']') (by decide),
    hasStrayReturn_append_visible (c := '.') (by decide), hname, hlink, hend, hshown,
    Bool.or_false, Bool.or_eq_left_iff_imp]
  exact fun h => ActivityName.hasStrayReturn_of_methodBuilderType h

theorem return_not_mem_activitiesIntro :
    ∀ line ∈ activitiesIntro, '\r' ∉ line.toList := by
  decide +kernel

theorem activityLine_iff {roles : RoleSet} (h : activityLine activity roles = .ok item) :
    hasStrayReturn item.toList = false ↔ ∀ a, ActivityName.ofText? activity = some a →
      hasStrayReturn (a.resource ++ "." ++ a.method ++ "]").toList = false := by
  cases ha : ActivityName.ofText? activity with
  | none => simp [activityLine, ha] at h
  | some a => simp [hasStrayReturn_activityLine h ha]

theorem any_activityLines_iff {uses : Table RoleSet} {items : List String}
    (h : List.Forall₂ (fun use item => activityLine use.1 use.2 = .ok item) uses items) :
    items.any (hasStrayReturn ·.toList) = false ↔
      ∀ use ∈ uses, ∀ a, ActivityName.ofText? use.1 = some a →
        hasStrayReturn (a.resource ++ "." ++ a.method ++ "]").toList = false := by
  induction h with
  | nil => simp
  | cons hitem _ ih =>
    rw [List.any_cons, Bool.or_eq_false_iff, List.forall_mem_cons, activityLine_iff hitem, ih]

/-- The section on activities has a stray return where the name of an activity has one. -/
theorem activities_iff {text : String} (h : activities s c = .ok text) :
    hasStrayReturn text.toList = false ↔ ∀ uses, c.activitiesOf s.id = some uses →
      ∀ use ∈ uses, ∀ a, ActivityName.ofText? use.1 = some a →
        hasStrayReturn (a.resource ++ "." ++ a.method ++ "]").toList = false := by
  unfold activities at h
  split at h
  next hnone =>
    cases h
    rw [hnone]
    exact iff_of_true (by decide) nofun
  next uses hsome =>
    obtain ⟨list, hlist, h⟩ := Outcome.bind_ok_iff.1 h
    cases h
    have hintro : activitiesIntro.any (hasStrayReturn ·.toList) = false :=
      List.any_eq_false.2 fun line hline =>
        Bool.not_eq_true _ ▸ hasStrayReturn_of_not_mem (return_not_mem_activitiesIntro line hline)
    have hsep : "\n".toList = List.replicate (0 + 1) '\n' := by decide
    rw [hsome, hasStrayReturn_intercalate_newlines 0 hsep, List.any_append, hintro, Bool.false_or,
      any_activityLines_iff (Outcome.mapM_ok_iff.1 hlist)]
    simp only [Option.some.injEq, forall_eq']

theorem return_not_mem_enclosed {front text back : String} (hfront : '\r' ∉ front.toList)
    (htext : '\r' ∉ text.toList) (hback : '\r' ∉ back.toList) :
    '\r' ∉ (front ++ text ++ back).toList := by
  simp only [String.toList_append, List.mem_append, not_or]
  exact ⟨⟨hfront, htext⟩, hback⟩

/-- A type that can be written is shown on one line. -/
theorem return_not_mem_display {e : TypeExpr} (h : t.expr = .ok e) : '\r' ∉ t.display.toList := by
  induction t generalizing e with
  | named name =>
    unfold FieldType.expr at h
    split at h
    next i hi =>
      change '\r' ∉ name.toList
      rw [← Ident.text_of_ofText? hi]
      exact fun hmem => absurd (Ident.not_surrounding_of_mem_text hmem) (by decide)
    next => cases h
  | list t ih =>
    obtain ⟨inner, hinner, _⟩ := Outcome.bind_ok_iff.1 h
    exact return_not_mem_enclosed (by decide : '\r' ∉ "Vec<".toList) (ih hinner) (by decide)
  | map t ih =>
    obtain ⟨inner, hinner, _⟩ := Outcome.bind_ok_iff.1 h
    exact return_not_mem_enclosed (by decide : '\r' ∉ "HashMap<String, ".toList) (ih hinner)
      (by decide)
  | option t ih =>
    obtain ⟨inner, hinner, _⟩ := Outcome.bind_ok_iff.1 h
    exact return_not_mem_enclosed (by decide : '\r' ∉ "Option<".toList) (ih hinner) (by decide)
  | _ => decide

theorem return_not_mem_note (h : '\r' ∉ t.display.toList) : '\r' ∉ (note t).toList :=
  return_not_mem_enclosed (by decide +kernel) h (by decide)

/-- The underlying type of a schema with a declaration can be written. -/
theorem exists_expr_of_underlyingType? (hdecl : Declaration.ofSchema s = .ok decl)
    (h : underlyingType? s = .ok (some t)) : ∃ e, t.expr = .ok e := by
  obtain ⟨i, hname, hdecl⟩ := Outcome.bind_ok_iff.1 hdecl
  obtain ⟨shape, hshape, hdecl⟩ := Outcome.bind_ok_iff.1 hdecl
  replace hshape := Outcome.mapError_ok_iff.1 hshape
  cases shape with
  | object fields =>
    rw [underlyingType?, hshape] at h
    cases h
  | records fields =>
    rw [underlyingType?, hshape] at h
    cases h
    have hi := (Declaration.typeName_ok_iff.1 hname).2
    simp [FieldType.expr, hi, bind, Except.bind, pure, Except.pure]
  | list items =>
    obtain ⟨type, htype, hdecl⟩ := Outcome.bind_ok_iff.1 hdecl
    obtain ⟨e, he, _⟩ := Outcome.bind_ok_iff.1 hdecl
    rw [underlyingType?_of_list hshape, Outcome.mapError_ok_iff.1 htype] at h
    cases h
    exact ⟨e, he⟩
  | other =>
    obtain ⟨kind, hscalar, hkind⟩ := SchemaNode.shape_eq_other_iff.1 hshape
    rw [underlyingType?, hshape] at h
    obtain ⟨t, ht, hsome⟩ := Outcome.map_ok_iff.1
      (show some <$> FieldType.ofProperty s.id FieldType.listElement s.asProperty = _ from h)
    cases hsome
    rw [FieldType.ofProperty, FieldType.ofDescriptor_scalar (p := s.asProperty) rfl hkind hscalar]
      at ht
    obtain ⟨scalar, hscalar, rfl⟩ := Outcome.map_ok_iff.1 ht
    cases hexpr : FieldType.expr _ with
    | ok e => exact ⟨e, rfl⟩
    | error f =>
      obtain ⟨n, hn, _⟩ := FieldType.expr_error_iff.1 hexpr
      rw [FieldType.core_wrap] at hn
      exact absurd hn (FieldType.core_ofScalar hscalar n)

/-- The lines above a declaration are single lines when the texts in them have no stray returns. -/
theorem lines_iff {lines : List String} (hdecl : Declaration.ofSchema s = .ok decl)
    (h : Header.lines s c = .ok lines) :
    (∀ line ∈ lines, IsSingleLine line) ↔
      hasStrayReturn (Unicode.trim (s.description.getD "").toList) = false ∧
      ∀ uses, c.activitiesOf s.id = some uses → ∀ use ∈ uses,
        ∀ a, ActivityName.ofText? use.1 = some a →
          hasStrayReturn (a.resource ++ "." ++ a.method ++ "]").toList = false := by
  obtain ⟨sections, hsections, h⟩ := Outcome.bind_ok_iff.1 h
  cases h
  obtain ⟨text, htext, hsections⟩ := Outcome.bind_ok_iff.1 hsections
  obtain ⟨type?, htype, hsections⟩ := Outcome.bind_ok_iff.1 hsections
  cases hsections
  have hnote : (type?.map note).toList.any (hasStrayReturn ·.toList) = false := by
    cases type? with
    | none => rfl
    | some t =>
      obtain ⟨e, he⟩ := exists_expr_of_underlyingType? hdecl htype
      have hmem := return_not_mem_note (return_not_mem_display he)
      simp [hasStrayReturn_of_not_mem hmem]
  have hdescription : hasStrayReturn (description s).toList =
      hasStrayReturn (Unicode.trim (s.description.getD "").toList) := by
    unfold description
    split
    next hnil =>
      rw [hnil]
      decide
    next => rw [String.toList_ofList]
  have hsep : "\n\n".toList = List.replicate (1 + 1) '\n' := by decide
  rw [forall_docLines_iff, hasStrayReturn_intercalate_newlines 1 hsep, List.any_append, hnote,
    Bool.or_false, ← activities_iff htext, ← hdescription]
  simp

end Header

/-- The field has the description of the property for documentation. -/
def FieldDecl.IsDocumentedBy (p : String × Property) (f : FieldDecl) : Prop :=
  f.doc = Text.docLines (p.2.description.getD noDescription)

section fields
variable {properties : Table Property} {fields : List Field} {decls : List FieldDecl}

theorem documentedBy_of_mirrors {schema : String}
    (hfields : List.Forall₂ (fun p f => f.Mirrors schema p.1 p.2) properties fields)
    (hdecls : List.Forall₂ (fun f decl => FieldDecl.ofField f = .ok decl) fields decls) :
    List.Forall₂ (fun p f => f.IsDocumentedBy p) properties decls := by
  induction hfields generalizing decls with
  | nil =>
    cases hdecls
    exact .nil
  | cons hfield _ ih =>
    cases hdecls with
    | cons hdecl hrest =>
      obtain ⟨type, _, hdecl⟩ := Outcome.bind_ok_iff.1 hdecl
      cases hdecl
      refine .cons ?_ (ih hrest)
      rw [FieldDecl.IsDocumentedBy, hfield.description_eq]

/-- Each named field of a declaration is documented by its property. -/
theorem Declaration.documentedBy_namedFields (h : ofSchema s = .ok decl) :
    List.Forall₂ (fun p f => f.IsDocumentedBy p) s.namedProperties decl.namedFields := by
  obtain ⟨i, _, h⟩ := Outcome.bind_ok_iff.1 h
  obtain ⟨shape, hshape, h⟩ := Outcome.bind_ok_iff.1 h
  rw [SchemaNode.namedProperties, Outcome.mapError_ok_iff.1 hshape]
  cases shape with
  | object properties | records properties =>
    obtain ⟨fields, hfields, h⟩ := Outcome.bind_ok_iff.1 h
    obtain ⟨decls, hdecls, h⟩ := Outcome.bind_ok_iff.1 h
    cases h
    exact documentedBy_of_mirrors (Field.ofProperties_ok_iff.1 hfields).1
      (Outcome.mapM_ok_iff.1 hdecls)
  | list items =>
    obtain ⟨type, _, h⟩ := Outcome.bind_ok_iff.1 h
    obtain ⟨expr, _, h⟩ := Outcome.bind_ok_iff.1 h
    cases h
    exact .nil
  | other =>
    cases h
    exact .nil

theorem newline_not_mem_fieldDocs
    (h : List.Forall₂ (fun p f => FieldDecl.IsDocumentedBy p f) properties decls) :
    ∀ line ∈ decls.flatMap FieldDecl.doc, '\n' ∉ line.toList := by
  intro line hline
  obtain ⟨f, hf, hline⟩ := List.mem_flatMap.1 hline
  obtain ⟨p, _, hp⟩ := Outcome.exists_of_forall₂ h hf
  rw [hp] at hline
  exact newline_not_mem_docLines hline

/-- The lines above fields are single lines when the descriptions have no stray returns. -/
theorem forall_fieldDocs_iff
    (h : List.Forall₂ (fun p f => FieldDecl.IsDocumentedBy p f) properties decls) :
    (∀ line ∈ decls.flatMap FieldDecl.doc, IsSingleLine line) ↔
      ∀ p ∈ properties, hasStrayReturn (p.2.description.getD "").toList = false := by
  induction h with
  | nil => simp
  | @cons p f _ _ hdoc _ ih =>
    have hdefault : hasStrayReturn (p.2.description.getD FieldDecl.noDescription).toList =
        hasStrayReturn (p.2.description.getD "").toList := by
      cases p.2.description with
      | none => decide
      | some description => rfl
    rw [List.flatMap_cons, List.forall_mem_append, List.forall_mem_cons, hdoc, forall_docLines_iff,
      hdefault, ih]

end fields

namespace TypeUnit

theorem flatMap_docLines_items (u : TypeUnit) :
    u.items.flatMap Item.docLines =
      u.doc ++ u.declaration.namedFields.flatMap FieldDecl.doc ++
        u.accessor.toList.flatMap fun _ => Accessor.documentation := by
  have hmarkers : (u.markers.map (Item.markerImpl · u.typeName)).flatMap Item.docLines = [] := by
    simp [Item.docLines, List.flatMap_map]
  rw [items, List.flatMap_append, List.flatMap_cons, hmarkers, List.append_nil]
  cases u.accessor <;> simp [Item.docLines]

theorem isSingleLine_documentation {line : String}
    (h : line ∈ u.accessor.toList.flatMap fun _ => Accessor.documentation) :
    IsSingleLine line := by
  have htext : ∀ line ∈ Accessor.documentation, IsSingleLine line := by decide +kernel
  obtain ⟨_, _, hline⟩ := List.mem_flatMap.1 h
  exact htext line hline

theorem newline_not_mem_docLines (h : ofSchema c s = .ok u) :
    ∀ line ∈ u.items.flatMap Item.docLines, '\n' ∉ line.toList := by
  have hu := composes_of_ofSchema h
  obtain ⟨sections, _, hdoc⟩ := Outcome.bind_ok_iff.1 hu.doc_eq
  rw [flatMap_docLines_items, List.forall_mem_append, List.forall_mem_append]
  refine ⟨⟨fun line hline => ?_, ?_⟩, fun line hline => (isSingleLine_documentation hline).1⟩
  · rw [← Except.ok.inj hdoc] at hline
    exact Text.newline_not_mem_docLines hline
  · exact newline_not_mem_fieldDocs (Declaration.documentedBy_namedFields hu.declaration_eq)

theorem forall_docLines_iff (h : ofSchema c s = .ok u) :
    (∀ line ∈ u.items.flatMap Item.docLines, IsSingleLine line) ↔ s.FitsLines c := by
  have hu := composes_of_ofSchema h
  have hfields :=
    forall_fieldDocs_iff (Declaration.documentedBy_namedFields hu.declaration_eq)
  rw [flatMap_docLines_items, List.forall_mem_append, List.forall_mem_append, hfields,
    Header.lines_iff hu.declaration_eq hu.doc_eq]
  constructor
  · rintro ⟨⟨⟨hdescription, hactivities⟩, hfields⟩, _⟩
    exact ⟨hdescription, hactivities, hfields⟩
  · rintro ⟨hdescription, hactivities, hfields⟩
    exact ⟨⟨⟨hdescription, hactivities⟩, hfields⟩, fun line => isSingleLine_documentation⟩

end TypeUnit

namespace SourceModule

/-- The first line of the documentation of a module. -/
def titleLine (d : Document) : String :=
  " Data types of the " ++ d.title.getD d.name ++ "."

/-- The last line of the documentation of a module. -/
def sourceLine (d : Document) : String :=
  " Generated from the `" ++ d.name ++ "` `" ++ d.version ++ "` discovery document."

theorem isSingleLine_titleLine_iff (d : Document) :
    IsSingleLine (titleLine d) ↔ IsSingleLine (d.title.getD d.name) := by
  have hfront : IsSingleLine " Data types of the " := by decide +kernel
  have hend : IsSingleLine "." := by decide +kernel
  unfold titleLine
  rw [isSingleLine_append, isSingleLine_append, and_iff_right hfront, and_iff_left hend]

theorem isSingleLine_sourceLine_iff (d : Document) :
    IsSingleLine (sourceLine d) ↔ IsSingleLine d.name ∧ IsSingleLine d.version := by
  have hfront : IsSingleLine " Generated from the `" := by decide +kernel
  have hbetween : IsSingleLine "` `" := by decide +kernel
  have hend : IsSingleLine "` discovery document." := by decide +kernel
  unfold sourceLine
  rw [isSingleLine_append, isSingleLine_append, isSingleLine_append, isSingleLine_append,
    and_iff_left hend, and_iff_right hfront, and_iff_left hbetween]

/-- The lines between those two that describe the document. -/
def descriptionLines (d : Document) : List String :=
  if (d.description.getD "").toList.all Unicode.isBlank then []
  else Text.docLines (d.description.getD "") ++ [""]

theorem docOf_eq (d : Document) :
    docOf d = titleLine d :: "" :: (descriptionLines d ++ [sourceLine d]) := rfl

theorem isSingleLine_empty : IsSingleLine "" := by
  decide

theorem newline_not_mem_descriptionLines (d : Document) :
    ∀ line ∈ descriptionLines d, '\n' ∉ line.toList := by
  unfold descriptionLines
  split
  · exact nofun
  · rw [List.forall_mem_append, List.forall_mem_singleton]
    exact ⟨fun _ => newline_not_mem_docLines, isSingleLine_empty.1⟩

theorem forall_descriptionLines_iff (d : Document) :
    (∀ line ∈ descriptionLines d, IsSingleLine line) ↔
      hasStrayReturn (d.description.getD "").toList = false := by
  unfold descriptionLines
  split
  next hblank =>
    exact iff_of_true nofun (hasStrayReturn_of_blank (List.all_eq_true.1 hblank))
  next =>
    rw [List.forall_mem_append, List.forall_mem_singleton, forall_docLines_iff,
      and_iff_left isSingleLine_empty]

theorem forall_docOf_iff (d : Document) :
    (∀ line ∈ docOf d, IsSingleLine line) ↔
      IsSingleLine (d.title.getD d.name) ∧ (IsSingleLine d.name ∧ IsSingleLine d.version) ∧
        hasStrayReturn (d.description.getD "").toList = false := by
  rw [docOf_eq, List.forall_mem_cons, List.forall_mem_cons, List.forall_mem_append,
    List.forall_mem_singleton, isSingleLine_titleLine_iff, isSingleLine_sourceLine_iff,
    forall_descriptionLines_iff, and_iff_right isSingleLine_empty, and_comm (a := _ = false)]

theorem docLines_eq (m : SourceModule) :
    m.docLines = m.doc ++ (Marker.all.flatMap (Item.docLines ∘ .markerTrait) ++
      m.units.flatMap fun u => u.items.flatMap Item.docLines) := by
  simp [docLines, items, Item.docLines, List.flatMap_append, List.flatMap_map, List.flatMap_assoc,
    Function.comp_def]

theorem isSingleLine_markerDocs :
    ∀ line ∈ Marker.all.flatMap (Item.docLines ∘ .markerTrait), IsSingleLine line := by
  intro line hline
  obtain ⟨m, _, hline⟩ := List.mem_flatMap.1 hline
  have hstray := hasStrayReturn_of_not_mem m.return_not_mem_documentationText
  exact (forall_docLines_iff _).2 hstray line hline

section units
variable {schemas : List SchemaNode} {units : List TypeUnit}
  (h : List.Forall₂ (fun s u => TypeUnit.ofSchema c s = .ok u) schemas units)
include h

theorem newline_not_mem_unitDocs :
    ∀ line ∈ units.flatMap fun u => u.items.flatMap Item.docLines, '\n' ∉ line.toList := by
  intro line hline
  obtain ⟨u, hu, hline⟩ := List.mem_flatMap.1 hline
  obtain ⟨s, _, hs⟩ := Outcome.exists_of_forall₂ h hu
  exact TypeUnit.newline_not_mem_docLines hs line hline

theorem forall_unitDocs_iff :
    (∀ line ∈ units.flatMap fun u => u.items.flatMap Item.docLines, IsSingleLine line) ↔
      ∀ s ∈ schemas, s.FitsLines c := by
  induction h with
  | nil => simp
  | cons hu _ ih =>
    rw [List.flatMap_cons, List.forall_mem_append, List.forall_mem_cons,
      TypeUnit.forall_docLines_iff hu, ih]

end units

/-- The documentation of a module consists of single lines exactly when the texts of its document
fit; and a line feed gets into no line but the first and the last one of the module's own, where the
title, the name and the version stand. -/
theorem forall_docLines_iff_fitsLines (h : ofDocument c d = .ok m) :
    ((∀ line ∈ m.docLines, IsSingleLine line) ↔ d.FitsLines c) ∧
      ∀ line ∈ m.docLines, '\n' ∈ line.toList → line = titleLine d ∨ line = sourceLine d := by
  obtain ⟨units, hunits, hm⟩ := Outcome.bind_ok_iff.1 h
  cases hm
  obtain ⟨nested, hnested, _, hschemas⟩ := unitsOf_ok_iff.1 hunits
  rw [docLines_eq]
  constructor
  case left =>
    rw [List.forall_mem_append, List.forall_mem_append, forall_docOf_iff,
      and_iff_right isSingleLine_markerDocs, forall_unitDocs_iff hschemas]
    constructor
    · rintro ⟨⟨htitle, ⟨hname, hversion⟩, hdescription⟩, hall⟩
      refine ⟨htitle, hname, hversion, hdescription, fun nested' hnested' => ?_⟩
      cases hnested.symm.trans hnested'
      exact hall
    · intro hfits
      exact ⟨⟨hfits.title, ⟨hfits.name, hfits.version⟩, hfits.description⟩,
        hfits.schemas nested hnested⟩
  case right =>
    intro line hline hfeed
    rcases List.mem_append.1 hline with hdoc | hitem
    · simp only [docOf_eq, List.mem_cons, List.mem_append, List.not_mem_nil, or_false] at hdoc
      rcases hdoc with htitle | rfl | hdescription | hsource
      · exact Or.inl htitle
      · exact absurd hfeed isSingleLine_empty.1
      · exact absurd hfeed (newline_not_mem_descriptionLines d line hdescription)
      · exact Or.inr hsource
    · rcases List.mem_append.1 hitem with hmarker | hunit
      · exact absurd hfeed (isSingleLine_markerDocs line hmarker).1
      · exact absurd hfeed (newline_not_mem_unitDocs hschemas line hunit)

theorem mem_docLines_of_mem_docOf {line : String} (h : ofDocument c d = .ok m)
    (hline : line ∈ docOf d) : line ∈ m.docLines := by
  obtain ⟨units, _, hm⟩ := Outcome.bind_ok_iff.1 h
  cases hm
  rw [docLines_eq]
  exact List.mem_append_left _ hline

/-- A schema that is described in two lines, the first of which ends with a carriage return. -/
def playlist : SchemaNode where
  id := "Playlist"
  kind := some .object
  description := some "A list.\r\nOf videos."
  properties := [("id", { kind := some .string, description := some "The name." })]

def playlistDocument : Document where
  name := "youtube"
  version := "v3"
  schemas := [("Playlist", playlist)]
  resources := [("playlists", { methods :=
    [("insert", { id := "youtube.playlists.insert", request := some ⟨"Playlist"⟩ })] })]

theorem forall_docLines_iff_fitsLines_playlist :
    ∃ c m, Run.context playlistDocument = .ok c ∧ ofDocument c playlistDocument = .ok m ∧
      playlistDocument.FitsLines c ∧
      ((∀ line ∈ m.docLines, IsSingleLine line) ↔ playlistDocument.FitsLines c) ∧
      ∀ line ∈ m.docLines, '\n' ∈ line.toList →
        line = titleLine playlistDocument ∨ line = sourceLine playlistDocument := by
  have hrun : (do
      let c ← Run.context playlistDocument
      let _ ← ofDocument c playlistDocument
      return (c.activitiesOf "Playlist").map (·.map fun use => ActivityName.ofText? use.1)) =
        (.ok (some [some ⟨"youtube", "playlists", "insert"⟩]) : Outcome _) := by
    decide +kernel
  obtain ⟨c, hc, h⟩ := Outcome.bind_ok_iff.1 hrun
  obtain ⟨m, hm, h⟩ := Outcome.bind_ok_iff.1 h
  have hplaylist : playlist.FitsLines c := by
    refine ⟨by decide +kernel, fun uses huses use huse a ha => ?_, by decide +kernel⟩
    have hnames := Except.ok.inj h
    rw [show c.activitiesOf "Playlist" = some uses from huses, Option.map_some,
      Option.some.injEq] at hnames
    have hname := List.mem_map_of_mem (f := fun use => ActivityName.ofText? use.1) huse
    rw [hnames, List.mem_singleton, ha, Option.some.injEq] at hname
    subst hname
    decide +kernel
  have hfits : playlistDocument.FitsLines c := by
    refine ⟨by decide +kernel, by decide +kernel, by decide +kernel, by decide +kernel, ?_⟩
    rintro _ ⟨⟩ s hs
    cases List.mem_singleton.1 (show s ∈ [playlist] from hs)
    exact hplaylist
  exact ⟨c, m, hc, hm, hfits, forall_docLines_iff_fitsLines hm⟩

/-- A document whose title has two lines, and whose description has a carriage return inside. -/
def brokenDocument : Document where
  name := "youtube"
  version := "v3"
  title := some "YouTube\nData API"
  description := some "One.\rTwo."

/-- Of the module of this document, the first line of documentation holds a line feed, and the
description is one line with a carriage return. -/
theorem broken_lines_written :
    ∃ d c m, Document.load "youtube.json" (some brokenDocument.encode.render) = .ok d ∧
      Run.context d = .ok c ∧ ofDocument c d = .ok m ∧
      (∃ line ∈ m.docLines, line = " Data types of the YouTube\nData API." ∧ ¬ IsSingleLine line) ∧
      ∃ line ∈ m.docLines, line = " One.\rTwo." ∧ ¬ IsSingleLine line := by
  have hrun : (do
      let d ← Document.load "youtube.json" (some brokenDocument.encode.render)
      let c ← Run.context d
      let _ ← ofDocument c d
      return (d.title, d.description)) =
        (.ok (brokenDocument.title, brokenDocument.description) : Outcome _) := by
    rw [Document.load_render]
    decide +kernel
  obtain ⟨d, hd, h⟩ := Outcome.bind_ok_iff.1 hrun
  obtain ⟨c, hc, h⟩ := Outcome.bind_ok_iff.1 h
  obtain ⟨m, hm, h⟩ := Outcome.bind_ok_iff.1 h
  obtain ⟨htitle, hdescription⟩ := Prod.mk.inj (Except.ok.inj h)
  have hfirst : titleLine d = " Data types of the YouTube\nData API." := by
    unfold titleLine
    rw [htitle, show brokenDocument.title = some "YouTube\nData API" from rfl, Option.getD_some]
    decide +kernel
  have hmiddle : descriptionLines d = [" One.\rTwo.", ""] := by
    unfold descriptionLines
    rw [hdescription]
    decide +kernel
  refine ⟨d, c, m, hd, hc, hm, ⟨_, mem_docLines_of_mem_docOf hm ?_, rfl, by decide +kernel⟩,
    ⟨_, mem_docLines_of_mem_docOf hm ?_, rfl, by decide +kernel⟩⟩
  · rw [docOf_eq, hfirst]
    exact List.mem_cons_self
  · rw [docOf_eq, hmiddle]
    simp

end SourceModule

end ApiTypes

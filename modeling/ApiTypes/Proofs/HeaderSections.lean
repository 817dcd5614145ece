import ApiTypes.Proofs.DocSections
import ApiTypes.Proofs.MadeNames
import ApiTypes.Proofs.StandardMarkers

/-!
The sections of the documentation above a declaration. The section on activities is made of the same
uses of the schema that decide about its markers: it lists every method that uses the schema, and
says that the schema is only a part of others exactly where it is marked so.
-/
namespace ApiTypes
open Text Unicode

/-- The roles of a schema in a method, as documentation shows them. -/
def Method.annotation (m : Method) (schema : String) : String :=
  match IoRole.all.filter fun r => m.roleReference r = some ⟨schema⟩ with
  | [] => "none"
  | roles => "|".intercalate (roles.map IoRole.name)

/-- The list item of a method: the resource path and the method in its name, a link to the type that
builds its calls, and the roles of the schema. -/
def Method.IsListedAs (m : Method) (schema item : String) : Prop :=
  ∃ a, ActivityName.ofText? m.id = some a ∧
    item = "* [" ++ a.resource ++ "." ++ a.method ++ "](struct." ++
      ActivityName.methodBuilderType a.resource a.method ++ ".html) (" ++ m.annotation schema ++ ")"

/-- What documentation says of a schema: its description without the blanks around it, or that there
is none where the schema has nothing but blanks to say. -/
inductive SchemaNode.IsDescribedAs (s : SchemaNode) : String → Prop
  | described (before text after : String)
      (description_eq : s.description = some (before ++ text ++ after))
      (blank : ∀ c ∈ (before ++ after).toList, isBlank c = true) (solid : IsSolid text.toList) :
      s.IsDescribedAs text
  | undescribed
      (blank : ∀ text, s.description = some text → ∀ c ∈ text.toList, isBlank c = true) :
      s.IsDescribedAs "There is no detailed description."

/-- The type that documentation tells: none of an object, that of a list of the schema itself where
the fields are those of the elements, and else the type that the schema has as a property. -/
inductive SchemaNode.IsToldAs (s : SchemaNode) :
    Except GenerationError (Option FieldType) → Prop
  | shapeless {e : ShapeError} (shape_eq : s.shape = .error e) : s.IsToldAs (.error (.shape e))
  | object {fields : Table Property} (shape_eq : s.shape = .ok (.object fields)) :
      s.IsToldAs (.ok none)
  | records {fields : Table Property} (shape_eq : s.shape = .ok (.records fields)) :
      s.IsToldAs (.ok (some (.list (.named s.id))))
  | list {items : Property} (shape_eq : s.shape = .ok (.list items)) :
      s.IsToldAs (some <$> FieldType.ofProperty s.id "items" s.asProperty)
  | other (shape_eq : s.shape = .ok .other) :
      s.IsToldAs (some <$> FieldType.ofProperty s.id "items" s.asProperty)

variable {c : Context} {d : Document} {m : Method} {s : SchemaNode} {schema : String}
  {methods : List Method}

theorem SchemaNode.IsDescribedAs.isSolid {text : String} (h : s.IsDescribedAs text) :
    IsSolid text.toList := by
  cases h with
  | described _ _ _ _ _ solid => exact solid
  | undescribed => exact ⟨by decide, by decide⟩

theorem Method.shown_rolesOf (m : Method) (schema : String) :
    (m.rolesOf schema).shown = m.annotation schema := by
  have hroles : (m.rolesOf schema).toList =
      IoRole.all.filter fun r => m.roleReference r = some ⟨schema⟩ := by
    refine List.filter_congr fun r _ => ?_
    rw [Bool.eq_iff_iff, contains_rolesOf, decide_eq_true_eq]
  rw [RoleSet.shown, hroles, annotation]
  cases IoRole.all.filter fun r => m.roleReference r = some ⟨schema⟩ <;> rfl

namespace FieldType

variable {property : String} {mayBeOptional : Bool} {p : Property} {e : GenerationError}

theorem ofScalar_error {kind : JsonType} {format : Option String}
    (h : ofScalar schema property kind format = .error e) :
    (∃ reason, e = .unmappable schema property reason) ∨
      ∃ format, e = .unknownFormat schema property format := by
  unfold ofScalar at h
  split at h
  case h_3 | h_4 =>
    split at h <;> cases h
    exact Or.inr ⟨_, rfl⟩
  case h_6 | h_7 =>
    cases h
    exact Or.inl ⟨_, rfl⟩
  all_goals cases h

/-- The error for a property that no type expresses names the schema and the property. -/
theorem ofDescriptor_error (h : ofDescriptor schema property mayBeOptional p = .error e) :
    (∃ reason, e = .unmappable schema property reason) ∨
      ∃ format, e = .unknownFormat schema property format := by
  fun_induction ofDescriptor schema property mayBeOptional p with
  | case5 _ _ _ _ _ _ element ih | case9 _ _ _ _ _ element ih =>
    exact ih (Outcome.map_error_iff.1 h)
  | case10 => exact ofScalar_error (Outcome.map_error_iff.1 h)
  | case1 | case6 => cases h
  | _ =>
    cases h
    exact Or.inl ⟨_, rfl⟩

end FieldType

/-- An entry for a schema comes with its first use. -/
theorem Context.Registered.activitiesOf_ne_nil (h : c.Registered methods) (schema : String) :
    c.activitiesOf schema ≠ some [] := by
  rw [h.activitiesOf_eq]
  split
  · simp
  next hu => simpa using hu

namespace Header

theorem isListedAs_of_activityLine {item : String}
    (h : activityLine m.id (m.rolesOf schema) = .ok item) : m.IsListedAs schema item := by
  unfold activityLine at h
  split at h
  · cases h
  next a ha =>
    cases h
    exact ⟨a, ha, by rw [Method.shown_rolesOf]⟩

/-- Every use by a method with a well-formed name has its list item. -/
theorem exists_items (hr : Registrable methods) (schema : String) :
    ∃ items, (usesOf methods schema).mapM (fun (activity, roles) => activityLine activity roles) =
        .ok items ∧
      List.Forall₂ (fun m item => m.IsListedAs schema item) (methods.filter (·.Uses schema))
        items := by
  cases h : (usesOf methods schema).mapM (fun (activity, roles) => activityLine activity roles) with
  | error e =>
    obtain ⟨use, ⟨before, after, heq, ⟨e', he'⟩, _⟩, _⟩ := Outcome.mapM_error_iff.1 h
    have huse : use ∈ usesOf methods schema := by simp [heq]
    obtain ⟨m, hm, rfl⟩ := List.mem_map.1 huse
    have hname := hr.1 m (List.mem_filter.1 hm).1
    obtain ⟨a, ha⟩ := Option.ne_none_iff_exists'.1 hname
    simp [activityLine, ha] at he'
  | ok items =>
    refine ⟨items, rfl, ?_⟩
    have hall := Outcome.mapM_ok_iff.1 h
    rw [usesOf, List.forall₂_map_left_iff] at hall
    exact hall.imp fun _ _ => isListedAs_of_activityLine

/-- A schema that no method uses is said to be only a part of others. -/
theorem activities_of_unused (h : c.Registered methods) (hu : usesOf methods s.id = []) :
    activities s c = .ok partOnly := by
  rw [activities, h.activitiesOf_eq, if_pos hu]

/-- What stands above the list of activities. -/
def listHeading : List String :=
  ["# Activities",
    "",
    "This type is used in activities, which are methods you may call on this type or where " ++
      "this type is involved in.",
    "The list links the activity name, along with information about where it is used (one of " ++
      "*request* and *response*).",
    ""]

theorem activitiesIntro_eq : activitiesIntro = listHeading := by
  decide +kernel

theorem activities_of_mapM {items : List String}
    (h : ∃ uses ∈ c.activitiesOf s.id,
      uses.mapM (fun (activity, roles) => activityLine activity roles) = .ok items) :
    activities s c = .ok ("\n".intercalate (listHeading ++ items)) := by
  obtain ⟨uses, huses, hitems⟩ := h
  rw [activities, Option.mem_def.1 huses, ← activitiesIntro_eq]
  exact Outcome.bind_ok_iff.2 ⟨items, hitems, rfl⟩

/-- A schema that methods use has an item for each of them. -/
theorem exists_activities (h : c.Registered methods) (hu : usesOf methods s.id ≠ []) :
    ∃ items, activities s c = .ok ("\n".intercalate (listHeading ++ items)) ∧
      List.Forall₂ (fun m item => m.IsListedAs s.id item) (methods.filter (·.Uses s.id)) items := by
  obtain ⟨items, hitems, hall⟩ := exists_items h.registrable s.id
  have huses : c.activitiesOf s.id = some (usesOf methods s.id) := by
    rw [h.activitiesOf_eq, if_neg hu]
  exact ⟨items, activities_of_mapM ⟨_, huses, hitems⟩, hall⟩

theorem exists_intercalate_eq (sep first last : String) (middle : List String) :
    ∃ between, sep.intercalate (first :: middle ++ [last]) = first ++ between ++ last := by
  rw [String.intercalate_append_of_ne_nil (List.cons_ne_nil _ _) (List.cons_ne_nil _ _),
    String.intercalate_singleton]
  cases middle with
  | nil => exact ⟨sep, by rw [String.intercalate_singleton]⟩
  | cons s middle =>
    refine ⟨sep ++ sep.intercalate (s :: middle) ++ sep, ?_⟩
    rw [String.intercalate_cons_cons]
    simp only [String.append_assoc]

theorem isDescribedAs_description (s : SchemaNode) : s.IsDescribedAs (description s) := by
  obtain ⟨before, after, htext, hblank⟩ := exists_eq_append_trim (s.description.getD "").toList
  unfold description
  split
  next hnil =>
    refine .undescribed fun text hs c hc => ?_
    rw [hs, Option.getD_some] at htext hnil
    rw [hnil, List.append_nil] at htext
    exact hblank c (htext ▸ hc)
  next htrim =>
    refine .described (String.ofList before) _ (String.ofList after) ?_ ?_ ?_
    · cases hs : s.description with
      | none =>
        rw [hs] at htrim
        exact absurd rfl htrim
      | some whole =>
        rw [hs, Option.getD_some] at htext
        simp [← String.toList_inj, ← htext]
    · simpa using hblank
    · rw [String.toList_ofList]
      exact isSolid_trim htrim

theorem isSolid_partOnly : IsSolid partOnly.toList :=
  ⟨by decide, by decide⟩

theorem isSolid_note (t : FieldType) : IsSolid (note t).toList :=
  IsSolid.append (s := "# Note\n\nThis type is not an object; its underlying type is `")
    (t := "`.") ⟨by decide, by decide⟩ ⟨by decide, by decide⟩ t.display

theorem isSolid_of_activityLine {activity item : String} {roles : RoleSet}
    (h : activityLine activity roles = .ok item) : IsSolid item.toList := by
  unfold activityLine at h
  split at h
  · cases h
  next a _ =>
    cases h
    have hsolid := IsSolid.append (s := "* [") (t := ")") ⟨by decide, by decide⟩
      ⟨by decide, by decide⟩ (a.resource ++ "." ++ a.method ++ "](struct." ++
        ActivityName.methodBuilderType a.resource a.method ++ ".html) (" ++ roles.shown)
    simpa only [String.append_assoc] using hsolid

/-- The list begins with its heading and ends with its last item. -/
theorem isSolid_list {items : List String} (hne : items ≠ [])
    (h : ∀ item ∈ items, IsSolid item.toList) :
    IsSolid ("\n".intercalate (activitiesIntro ++ items)).toList := by
  obtain ⟨front, last, rfl⟩ := (List.eq_nil_or_concat' items).resolve_left hne
  have hlast := h last (List.mem_append_right front List.mem_cons_self)
  obtain ⟨between, hbetween⟩ :=
    exists_intercalate_eq "\n" "# Activities" last (activitiesIntro.tail ++ front)
  have htext : "\n".intercalate (activitiesIntro ++ (front ++ [last])) =
      "# Activities" ++ between ++ last := by
    rw [← List.append_assoc]
    exact hbetween
  rw [htext]
  exact IsSolid.append ⟨by decide, by decide⟩ hlast between

/-- Only a list without items would end in an empty line. -/
theorem isSolid_activities {text : String} (h : activities s c = .ok text)
    (hne : c.activitiesOf s.id ≠ some []) : IsSolid text.toList := by
  unfold activities at h
  split at h
  next hnone =>
    cases h
    exact isSolid_partOnly
  next uses hsome =>
    obtain ⟨items, hitems, htext⟩ := Outcome.bind_ok_iff.1 h
    cases htext
    have hall := Outcome.mapM_ok_iff.1 hitems
    refine isSolid_list ?_ fun item hitem => ?_
    · rintro rfl
      exact hne (by rw [hsome, List.forall₂_nil_right_iff.1 hall])
    · obtain ⟨_, _, hline⟩ := Outcome.exists_of_forall₂ hall hitem
      exact isSolid_of_activityLine hline

/-- A failure to tell the underlying type has nothing to do with activities. -/
theorem underlyingType?_ne_badActivityName (name : String) :
    underlyingType? s ≠ .error (.badActivityName name) := by
  intro h
  rcases Outcome.bind_error_iff.1 h with h | ⟨shape, _, h⟩
  · obtain ⟨_, _, h⟩ := Outcome.mapError_error_iff.1 h
    cases h
  · cases shape with
    | object fields | records fields => cases h
    | list items | other =>
      rcases Outcome.bind_error_iff.1 h with h | ⟨_, _, h⟩
      · rcases FieldType.ofDescriptor_error h with ⟨_, h⟩ | ⟨_, h⟩ <;> cases h
      · cases h

theorem exists_isToldAs (s : SchemaNode) : ∃ type?, s.IsToldAs type? := by
  cases hshape : s.shape with
  | error e => exact ⟨_, .shapeless hshape⟩
  | ok shape =>
    cases shape with
    | object fields => exact ⟨_, .object hshape⟩
    | records fields => exact ⟨_, .records hshape⟩
    | list items => exact ⟨_, .list hshape⟩
    | other => exact ⟨_, .other hshape⟩

theorem underlyingType?_of_isToldAs {type? : Except GenerationError (Option FieldType)}
    (h : s.IsToldAs type?) : underlyingType? s = type? := by
  rcases h with shape_eq | shape_eq | shape_eq | shape_eq | shape_eq <;>
    simp only [underlyingType?, shape_eq] <;> rfl

theorem isToldAs_iff {type? : Except GenerationError (Option FieldType)} :
    s.IsToldAs type? ↔ underlyingType? s = type? := by
  refine ⟨underlyingType?_of_isToldAs, ?_⟩
  rintro rfl
  obtain ⟨type?, htype⟩ := exists_isToldAs s
  rwa [underlyingType?_of_isToldAs htype]

/-- An object has no underlying type to tell of, and all other schemas have. -/
theorem eq_none_iff_of_underlyingType? {type? : Option FieldType}
    (h : underlyingType? s = .ok type?) :
    type? = none ↔ ∃ fields, s.shape = .ok (.object fields) := by
  obtain ⟨shape, hshape, h⟩ := Outcome.bind_ok_iff.1 h
  rw [Outcome.mapError_ok_iff.1 hshape]
  cases shape with
  | object fields | records fields =>
    cases h
    simp
  | list items | other =>
    obtain ⟨_, _, h⟩ := Outcome.bind_ok_iff.1 h
    cases h
    simp

/-- A list has a heading, and the sentence on parts has none. -/
theorem list_ne_partOnly (items : List String) :
    "\n".intercalate (listHeading ++ items) ≠ partOnly := by
  intro h
  have htext : "\n".intercalate (listHeading ++ items) =
      "# Activities" ++ "\n" ++ "\n".intercalate (listHeading.tail ++ items) :=
    String.intercalate_cons_cons
  have hlist : (some '#' : Option Char) = partOnly.toList.head? := by
    rw [← h, htext, String.append_assoc, String.toList_append]
    rfl
  exact absurd hlist (by decide)

/-- The sections of the documentation, from what it says of the schema and of activities and the
type it tells. -/
def sectionsOf (about activities : String) (type? : Option FieldType) : List String :=
  [about, activities] ++ type?.toList.map fun t =>
    "# Note\n\nThis type is not an object; its underlying type is `" ++ t.display ++ "`."

theorem sectionsOf_eq (about activities : String) (type? : Option FieldType) :
    sectionsOf about activities type? = [about, activities] ++ (type?.map note).toList := by
  cases type? <;> rfl

/-- The documentation of a schema reports the methods of a document. -/
structure Reports (d : Document) (c : Context) (s : SchemaNode) : Prop where
  /-- The section on activities has a list, unless the schema is marked as a part of others. -/
  partOnly_iff : activities s c =
      .ok "This type is not used in any activity, and only used as *part* of another schema." ↔
    Classifier.standard s c.activities .part = true
  /-- The list has an item for each method that uses the schema, in the order of the methods. -/
  listed : Classifier.standard s c.activities .part = false →
    ∃ methods items, d.root.MethodsInOrder methods ∧
      activities s c = .ok ("\n".intercalate (listHeading ++ items)) ∧
      List.Forall₂ (fun m item => m.IsListedAs s.id item) (methods.filter (·.Uses s.id)) items
  /-- There is no documentation only where there is no shape, or no type to tell. -/
  error_iff : ∀ e, lines s c = .error e ↔ s.IsToldAs (.error e)
  ne_badActivityName : ∀ name, lines s c ≠ .error (.badActivityName name)
  /-- The lines are those of two sections, or three where the schema is no object, with an empty
  line between any two, and no section begins or ends with an empty line. -/
  lines_eq : ∀ ls, lines s c = .ok ls →
    ∃ about text type?, s.IsDescribedAs about ∧ activities s c = .ok text ∧
      s.IsToldAs (.ok type?) ∧ (type? = none ↔ ∃ fields, s.shape = .ok (.object fields)) ∧
      ls = List.intercalate [""] ((sectionsOf about text type?).map docLines) ∧
      ∀ part ∈ sectionsOf about text type?, IsBlock (docLines part)

/-- There is a section on activities for every schema. -/
theorem exists_isSolid_activities (h : c.Registered methods) (s : SchemaNode) :
    ∃ text, activities s c = .ok text ∧ IsSolid text.toList := by
  obtain ⟨text, htext⟩ : ∃ text, activities s c = .ok text := by
    by_cases hu : usesOf methods s.id = []
    · exact ⟨_, activities_of_unused h hu⟩
    · obtain ⟨items, hitems, _⟩ := exists_activities h hu
      exact ⟨_, hitems⟩
  exact ⟨text, htext, isSolid_activities htext (h.activitiesOf_ne_nil s.id)⟩

theorem isSolid_of_mem_sectionsOf {about text part : String} {type? : Option FieldType}
    (hdescribed : s.IsDescribedAs about) (h : IsSolid text.toList)
    (hpart : part ∈ sectionsOf about text type?) : IsSolid part.toList := by
  simp only [sectionsOf_eq, List.mem_append, List.mem_cons, List.not_mem_nil, or_false,
    Option.mem_toList, Option.map_eq_some_iff] at hpart
  rcases hpart with (rfl | rfl) | ⟨t, _, rfl⟩
  · exact hdescribed.isSolid
  · exact h
  · exact isSolid_note t

/-- Once it is known what to say of activities, all hangs on the underlying type. -/
theorem lines_eq_map {text : String} (h : activities s c = .ok text) :
    lines s c =
      (fun type? => docLines ("\n\n".intercalate (sectionsOf (description s) text type?))) <$>
        underlyingType? s := by
  simp only [sectionsOf_eq]
  rw [lines, sections, h]
  cases underlyingType? s <;> rfl

theorem reports_methods (h : Context.ofDocument d = .ok c) (s : SchemaNode) : Reports d c s := by
  have hreg := Context.registered_of_ofDocument h
  have hpart : Classifier.standard s c.activities .part =
      (usesOf d.root.allMethods s.id).isEmpty := Classifier.standard_eq hreg .part
  obtain ⟨text, htext, hsolid⟩ := exists_isSolid_activities hreg s
  have herror : ∀ e, lines s c = .error e ↔ underlyingType? s = .error e := fun e => by
    rw [lines_eq_map htext, Outcome.map_error_iff]
  constructor
  case partOnly_iff =>
    rw [hpart, List.isEmpty_iff]
    refine ⟨fun hsaid => ?_, activities_of_unused hreg⟩
    by_contra hu
    obtain ⟨items, hitems, _⟩ := exists_activities hreg hu
    rw [hitems, Except.ok.injEq] at hsaid
    exact list_ne_partOnly items hsaid
  case listed =>
    rw [hpart, List.isEmpty_eq_false_iff]
    intro hu
    obtain ⟨items, hitems, hall⟩ := exists_activities hreg hu
    exact ⟨_, items, d.root.methodsInOrder_allMethods, hitems, hall⟩
  case error_iff =>
    intro e
    rw [herror, isToldAs_iff]
  case ne_badActivityName =>
    intro name hname
    exact underlyingType?_ne_badActivityName name ((herror _).1 hname)
  case lines_eq =>
    intro ls hls
    rw [lines_eq_map htext, Outcome.map_ok_iff] at hls
    obtain ⟨type?, htype, rfl⟩ := hls
    have habout := isDescribedAs_description s
    have hsections : ∀ part ∈ sectionsOf (description s) text type?, IsSolid part.toList :=
      fun _ => isSolid_of_mem_sectionsOf habout hsolid
    exact ⟨_, text, type?, habout, htext, isToldAs_iff.2 htype,
      eq_none_iff_of_underlyingType? htype,
      docLines_intercalate hsections, fun part hpart => (hsections part hpart).isBlock⟩

/-- A schema that one method takes and returns, another takes, and a third works on. -/
def video : SchemaNode :=
  { id := "Video", kind := some .object, description := some " A video.\n" }

/-- A schema that no method uses. -/
def captions : SchemaNode :=
  { id := "Captions", kind := some .array, items := some (.of .string) }

/-- A document with a method further down between two others that use the same schema. -/
def uploadDocument : Document where
  name := "youtube"
  version := "v3"
  schemas := [("Video", video), ("Captions", captions)]
  resources := [("videos",
      { methods := [("insert",
          { id := "youtube.videos.insert", request := some ⟨"Video"⟩, response := some ⟨"Video"⟩ })]
        resources := [("thumbnails",
          { methods := [("set",
              { id := "youtube.videos.thumbnails.set", request := some ⟨"Video"⟩ })] })] }),
    ("trash", { methods := [("empty", { id := "youtube.videos.delete" })] })]

theorem reports_methods_upload :
    ∃ c, Context.ofDocument uploadDocument = .ok c ∧
      Reports uploadDocument c video ∧ Reports uploadDocument c captions ∧
      activities video c = .ok ("\n".intercalate (listHeading ++
        ["* [videos.insert](struct.VideoInsertMethodBuilder.html) (request|response)",
          "* [videos.thumbnails.set](struct.VideosThumbnailSetMethodBuilder.html) (request)",
          "* [videos.delete](struct.VideoDeleteMethodBuilder.html) (none)"])) ∧
      lines captions c = .ok
        [" There is no detailed description.",
          "",
          " This type is not used in any activity, and only used as *part* of another schema.",
          "",
          " # Note",
          "",
          " This type is not an object; its underlying type is `Vec<String>`."] := by
  obtain ⟨c, hc, _⟩ := Context.ofDocument_of_registrable (d := uploadDocument)
    ⟨by decide +kernel, by decide +kernel⟩
  refine ⟨c, hc, reports_methods hc video, reports_methods hc captions, ?_, ?_⟩
  · exact activities_of_mapM (Outcome.of_exists_ok c hc (by decide +kernel))
  · exact Outcome.of_exists_ok c hc (by decide +kernel)

end Header

end ApiTypes

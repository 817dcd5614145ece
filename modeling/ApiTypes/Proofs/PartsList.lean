import ApiTypes.Code.Accessor
import ApiTypes.Proofs.FieldList

/-!
The accessor computes the list of parts. Its loop invariant is that the text so far holds the wire
name of each populated field with a comma after it; the last statement drops one comma.
-/
namespace ApiTypes.Accessor
variable {fields : List Field} {object slots : Object} {s : SchemaNode} {names : List String}

/-- An object of the struct with these fields: a value of the right type in each, in order. -/
def IsObject (fields : List Field) (object : Object) : Prop :=
  List.Forall₂ (fun f slot => slot.1 = f.ident ∧ slot.2.fits f.type = true) fields object

/-- The wire names of the populated fields, in order of declaration. -/
def populatedNames (fields : List Field) (object : Object) : List String :=
  ((fields.zip object).filter fun (_, _, v) => v.isPopulated).map fun (f, _) => f.wireName

/-- Names with a comma after each. -/
def terminated (names : List String) : List Char :=
  names.flatMap fun n => n.toList ++ [',']

theorem terminated_eq (h : names ≠ []) :
    terminated names = (",".intercalate names).toList ++ [','] := by
  induction names with
  | nil => exact absurd rfl h
  | cons n rest ih =>
    cases rest with
    | nil => simp [terminated]
    | cons m rest =>
      have ih := ih (by simp)
      simp only [terminated, List.flatMap_cons] at ih ⊢
      simp [ih, String.intercalate_cons_cons]

theorem lookup_of_isObject (ho : IsObject fields object)
    (hn : (fields.map Field.ident).Nodup) {slot : Ident × FieldValue} (hs : slot ∈ object) :
    object.lookup slot.1 = some slot.2 := by
  have hidents : object.map Prod.fst = fields.map Field.ident := by
    clear hn hs
    induction ho with
    | nil => rfl
    | cons h _ ih => simp only [List.map_cons, h.1, ih]
  exact Table.lookup_of_mem (hidents ▸ hn) hs

/-- The presence that the type of a field promises is the one that its values can be asked for. -/
theorem presence_of_fits {v : FieldValue} {t : FieldType} (h : v.fits t = true) :
    t.presence = match v with
      | .option _ => .isSome
      | .list _ | .map _ => .nonEmpty
      | .plain => .always := by
  cases t <;> cases v <;> first | rfl | simp [FieldValue.fits] at h

@[simp] theorem terminated_nil : terminated [] = [] := rfl

@[simp] theorem terminated_cons (n : String) (names : List String) :
    terminated (n :: names) = n.toList ++ ',' :: terminated names := by
  simp [terminated]

/-- One check adds the name of its field and a comma, or nothing. -/
theorem run_check {f : Field} {v : FieldValue} (hl : object.lookup f.ident = some v)
    (hv : v.fits f.type = true) (parts : List Char) :
    (check f).run object parts =
      some (parts ++ terminated (if v.isPopulated then [f.wireName] else [])) := by
  have hp := presence_of_fits hv
  cases v with
  | option isSet =>
    cases isSet <;>
      simp [check, hp, Statement.run, Condition.holds?, hl, FieldValue.isSome?,
        FieldValue.isPopulated]
  | list size | map size =>
    by_cases hsize : size = 0 <;>
      simp [check, hp, Statement.run, Condition.holds?, hl, FieldValue.isEmpty?,
        FieldValue.isPopulated, hsize]
  | plain => simp [check, hp, Statement.run, FieldValue.isPopulated]

/-- The checks add the names of the populated fields, each with a comma after it. -/
theorem run_checks (ho : IsObject fields slots)
    (hl : ∀ slot ∈ slots, object.lookup slot.1 = some slot.2) (parts : List Char) :
    (fields.map check).foldlM (fun parts st => st.run object parts) parts =
      some (parts ++ terminated (populatedNames fields slots)) := by
  induction ho generalizing parts with
  | nil => simp [populatedNames, terminated]
  | @cons f slot fields slots h _ ih =>
    have hslot := hl slot List.mem_cons_self
    rw [h.1] at hslot
    have ih := ih fun r hr => hl r (List.mem_cons_of_mem _ hr)
    simp only [List.map_cons, List.foldlM_cons, run_check hslot h.2]
    cases hv : slot.2.isPopulated <;> simp [populatedNames, hv, ih]

theorem run_trim (object : Object) (names : List String) :
    (Statement.when .endsWithComma .pop).run object (terminated names) =
      some (",".intercalate names).toList := by
  cases names with
  | nil => simp [terminated, Statement.run, Condition.holds?]
  | cons n rest =>
    rw [terminated_eq (by simp)]
    simp [Statement.run, Condition.holds?]

/-- The names in a list of parts; an empty text holds none. -/
def partNames (text : String) : List String :=
  if text = "" then [] else Text.split ',' text

theorem partNames_intercalate (hempty : ∀ n ∈ names, n ≠ "")
    (hcomma : ∀ n ∈ names, ',' ∉ n.toList) :
    partNames (",".intercalate names) = names := by
  by_cases hne : names = []
  · subst hne
    simp [partNames]
  · have hsplit : Text.split ',' (",".intercalate names) = names :=
      Text.split_intercalate rfl hne hcomma
    rw [partNames, if_neg (mt (Text.intercalate_eq_empty_iff hempty).1 hne), hsplit]

theorem populatedNames_subset {n : String} (hn : n ∈ populatedNames fields object) :
    ∃ f ∈ fields, f.wireName = n := by
  simp only [populatedNames, List.mem_map, List.mem_filter] at hn
  obtain ⟨⟨f, slot⟩, ⟨hmem, _⟩, rfl⟩ := hn
  exact ⟨f, (List.of_mem_zip hmem).1, rfl⟩

/-- The statements of an accessor before its last one. -/
def checks (fields : List Field) : List Statement :=
  .declare :: fields.map check

theorem body_ofFields (type : Ident) (hne : fields ≠ []) :
    (ofFields type fields).body = checks fields ++ [.when .endsWithComma .pop] := by
  simp [ofFields, checks, hne]

theorem run_checks_of_isObject (ho : IsObject fields object)
    (hn : (fields.map Field.ident).Nodup) :
    (checks fields).foldlM (fun parts st => st.run object parts) [] =
      some (terminated (populatedNames fields object)) := by
  simp only [checks, List.foldlM_cons, Statement.run, Option.bind_eq_bind, Option.bind_some]
  exact run_checks ho (fun slot hs => lookup_of_isObject ho hn hs) []

/-- Run on an object, the method returns the names of the populated fields with commas between. -/
theorem run_ofFields_of_isObject (type : Ident) (ho : IsObject fields object)
    (hn : (fields.map Field.ident).Nodup) :
    (ofFields type fields).run object = some (",".intercalate (populatedNames fields object)) := by
  by_cases hne : fields = []
  · subst hne
    simp [ofFields, run, populatedNames]
  · have hresult : (ofFields type fields).result = .parts := by simp [ofFields, hne]
    simp only [run, body_ofFields type hne, List.foldlM_append, run_checks_of_isObject ho hn,
      List.foldlM_cons, List.foldlM_nil, run_trim, hresult, Option.bind_eq_bind, Option.bind_some,
      Option.pure_def, String.ofList_toList]

/-- The accessor of a schema lists the populated fields of every object by wire name, in order and
with commas between the names. Before its last statement the list has one comma more, unless it is
empty, and the last statement drops that comma whatever the names hold. Names without commas are
read back from the list. -/
theorem run_ofFields_lists_populated (h : Field.ofSchema s = .ok fields) (type : Ident)
    (ho : IsObject fields object) :
    (ofFields type fields).run object = some (",".intercalate (populatedNames fields object)) ∧
      (fields ≠ [] →
        (ofFields type fields).body = checks fields ++ [.when .endsWithComma .pop] ∧
          (checks fields).foldlM (fun parts st => st.run object parts) [] =
            some ((",".intercalate (populatedNames fields object)).toList ++
              if populatedNames fields object = [] then [] else [','])) ∧
      ((∀ f ∈ fields, ',' ∉ f.wireName.toList) →
        partNames (",".intercalate (populatedNames fields object)) =
          populatedNames fields object) := by
  have hchecks := run_checks_of_isObject ho (Field.nodup_idents h)
  refine ⟨run_ofFields_of_isObject type ho (Field.nodup_idents h), ?_, ?_⟩
  · intro hne
    refine ⟨body_ofFields type hne, hchecks.trans ?_⟩
    by_cases hnames : populatedNames fields object = []
    · simp [hnames]
    · rw [terminated_eq hnames, if_neg hnames]
  · intro hcomma
    apply partNames_intercalate
    · intro n hn
      obtain ⟨f, hf, rfl⟩ := populatedNames_subset hn
      exact Field.wireName_ne_empty h hf
    · intro n hn
      obtain ⟨f, hf, rfl⟩ := populatedNames_subset hn
      exact hcomma f hf

/-- A schema with a field of each presence, the last one under the given name. -/
def videoSchema (last : String) : SchemaNode where
  id := "Video"
  kind := some .object
  properties := [("etag", .of .string), ("tags", .arrayOf (.of .string)),
    ("id", { Property.of .string with required := true }), (last, .of .integer)]

def plainName (name : String) (h : Ident.isName name.toList = true := by decide +kernel) : Ident :=
  ⟨false, name, h, by simp⟩

def videoFields (last : String) (lastIdent : Ident) : List Field :=
  [⟨"etag", plainName "etag", .option .string, none⟩,
    ⟨"tags", plainName "tags", .list .string, none⟩,
    ⟨"id", plainName "id", .string, none⟩,
    ⟨last, lastIdent, .option .i64, none⟩]

def videoObject (lastIdent : Ident) : Object :=
  [(plainName "etag", .option false),
    (plainName "tags", .list 2),
    (plainName "id", .plain),
    (lastIdent, .option true)]

theorem isObject_video (last : String) (lastIdent : Ident) :
    IsObject (videoFields last lastIdent) (videoObject lastIdent) := by
  simp [IsObject, videoFields, videoObject, FieldValue.fits]

/-- A name that ends in a comma keeps it, and names without commas are read back. -/
theorem run_ofFields_video :
    (ofFields (plainName "Video") (videoFields "note," (plainName "note_"))).run
        (videoObject (plainName "note_")) = some "tags,id,note," ∧
    partNames "tags,id,note" = ["tags", "id", "note"] := by
  have hcomma : Field.ofSchema (videoSchema "note,") =
      .ok (videoFields "note," (plainName "note_")) := by decide +kernel
  have hplain : Field.ofSchema (videoSchema "note") =
      .ok (videoFields "note" (plainName "note")) := by decide +kernel
  refine ⟨?_, ?_⟩
  · exact (run_ofFields_lists_populated hcomma _ (isObject_video _ _)).1
  · exact (run_ofFields_lists_populated hplain (plainName "Video")
      (isObject_video _ _)).2.2 (by decide)

end ApiTypes.Accessor

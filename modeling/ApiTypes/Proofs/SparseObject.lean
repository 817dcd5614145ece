import ApiTypes.Proofs.ExactName
import ApiTypes.Proofs.PartsList
import ApiTypes.Proofs.UnitList

/-!
What an object is written as, and what its accessor lists. The declaration of a type says under
which key each field is written and when it is left out; the accessor says which names it lists and
when. For every object the keys that are written are the names that are listed.
-/
namespace ApiTypes

/-- Whether a field declared with this type can hold the value. -/
def TypeExpr.holds : TypeExpr → FieldValue → Bool
  | path ["Option"] _, v => (v matches .option _)
  | path ["Vec"] _, v => (v matches .list _)
  | path ["std", "collections", "HashMap"] _, v => (v matches .map _)
  | _, v => (v matches .plain)

/-- The answer of the function that a rule names, which takes values of its own kind only. -/
def SkipRule.holds? : SkipRule → FieldValue → Option Bool
  | optionIsNone, .option isSet => some !isSet
  | listIsEmpty, .list size => some (size == 0)
  | mapIsEmpty, .map size => some (size == 0)
  | _, _ => none

namespace FieldDecl

/-- Whether the field is left out of what is written while it holds the value. -/
def isLeftOut? (f : FieldDecl) (v : FieldValue) : Option Bool :=
  match f.skip with
  | none => some false
  | some rule => rule.holds? v

/-- The keys under which the fields of an object are written, field by field. -/
def writtenKeys? (object : Object) : List FieldDecl → Option (List String)
  | [] => some []
  | f :: rest => do
    let v ← object.lookup f.ident
    let leftOut ← f.isLeftOut? v
    let keys ← writtenKeys? object rest
    return if leftOut then keys else f.key :: keys

/-- The statement lists the field under its key: always if no rule leaves the field out, and
otherwise under a condition that holds of a value exactly when the rule does not. -/
inductive ListedBy (f : FieldDecl) : Statement → Prop
  | always (skip_eq : f.skip = none) : f.ListedBy (.push (f.key ++ ","))
  | unless {rule : SkipRule} {c : Condition} (skip_eq : f.skip = some rule)
      (holds_iff : ∀ object parts v, object.lookup f.ident = some v → f.type.holds v = true →
        ∃ leftOut, rule.holds? v = some leftOut ∧ c.holds? object parts = some !leftOut) :
      f.ListedBy (.when c (.push (f.key ++ ",")))

/-- The field is declared as the resolved field asks. -/
structure Declares (f : Field) (decl : FieldDecl) : Prop where
  key_eq : decl.key = f.wireName
  skip_eq : decl.skip = SkipRule.ofType? f.type
  ident_eq : decl.ident = f.ident
  type_eq : f.type.expr = .ok decl.type

end FieldDecl

namespace Declaration

/-- The fields that are written under names. -/
def namedFields (d : Declaration) : List FieldDecl :=
  match d.body with
  | .fields fields => fields
  | .wrapper _ | .bare => []

/-- An object of the declared type: a value of the right kind for each named field, in order. -/
def IsInstance (d : Declaration) (object : Object) : Prop :=
  List.Forall₂ (fun f slot => slot.1 = f.ident ∧ f.type.holds slot.2 = true) d.namedFields object

end Declaration

variable {f : Field} {decl : FieldDecl} {fields : List Field} {decls : List FieldDecl}
  {object slots : Object} {s : SchemaNode} {d : Declaration} {c : Context} {u : TypeUnit}
  {a : Accessor}

/-- The written type of a field takes the values that its type takes. -/
theorem FieldType.holds_expr {t : FieldType} {e : TypeExpr} (h : t.expr = .ok e) (v : FieldValue) :
    e.holds v = v.fits t := by
  cases t with
  | named name =>
    simp only [expr] at h
    split at h
    · cases h
      rfl
    · cases h
  | list element | map value | option value =>
    obtain ⟨inner, _, he⟩ := Outcome.bind_ok_iff.1 h
    cases he
    rfl
  | _ =>
    cases h
    rfl

namespace FieldDecl

theorem declares_of_ofField (h : ofField f = .ok decl) : Declares f decl := by
  obtain ⟨type, htype, hdecl⟩ := Outcome.bind_ok_iff.1 h
  cases hdecl
  refine ⟨?_, rfl, rfl, htype⟩
  by_cases hrenamed : f.isRenamed = true
  · simp [key, hrenamed]
  · have htext : f.ident.text = f.wireName := by simpa [Field.isRenamed] using hrenamed
    simp [key, hrenamed, htext]

/-- The check of a field lists its declared form. -/
theorem Declares.listedBy_check (h : Declares f decl) : decl.ListedBy (Accessor.check f) := by
  have hfits : ∀ v, decl.type.holds v = true → v.fits f.type = true := by
    intro v hv
    rwa [FieldType.holds_expr h.type_eq] at hv
  have hskip := h.skip_eq
  unfold Accessor.check
  rw [← h.key_eq, ← h.ident_eq]
  cases ht : f.type with
  | option t | list t | map t =>
    rw [ht] at hskip hfits
    refine .unless hskip fun object parts v hl hv => ?_
    have hfit := hfits v hv
    cases v <;> simp [FieldValue.fits] at hfit
    exact ⟨_, rfl, by simp [Condition.holds?, hl, FieldValue.isSome?, FieldValue.isEmpty?]⟩
  | _ =>
    rw [ht] at hskip
    exact .always hskip

/-- A field is left out of what is written exactly when its value is not populated. -/
theorem Declares.isLeftOut?_eq (h : Declares f decl) {v : FieldValue}
    (hv : v.fits f.type = true) : decl.isLeftOut? v = some !v.isPopulated := by
  unfold isLeftOut?
  rw [h.skip_eq]
  cases ht : f.type with
  | option t | list t | map t =>
    rw [ht] at hv
    cases v <;> simp [FieldValue.fits] at hv
    simp [SkipRule.ofType?, SkipRule.holds?, FieldValue.isPopulated, bne]
  | _ =>
    rw [ht] at hv
    cases v <;> simp [FieldValue.fits] at hv
    rfl

end FieldDecl

/-- The named fields of a declaration are those of the schema. -/
theorem Declaration.declares_namedFields (h : Declaration.ofSchema s = .ok d) :
    ∃ fields, Field.ofSchema s = .ok fields ∧
      List.Forall₂ FieldDecl.Declares fields d.namedFields := by
  obtain ⟨name, _, h⟩ := Outcome.bind_ok_iff.1 h
  obtain ⟨shape, hshape, h⟩ := Outcome.bind_ok_iff.1 h
  cases shape with
  | object properties | records properties =>
    obtain ⟨fields, hfields, h⟩ := Outcome.bind_ok_iff.1 h
    obtain ⟨decls, hdecls, hd⟩ := Outcome.bind_ok_iff.1 h
    cases hd
    refine ⟨fields, Outcome.bind_ok_iff.2 ⟨_, hshape, hfields⟩, ?_⟩
    exact (Outcome.mapM_ok_iff.1 hdecls).imp fun _ _ => FieldDecl.declares_of_ofField
  | list items =>
    obtain ⟨type, _, h⟩ := Outcome.bind_ok_iff.1 h
    obtain ⟨expr, _, hd⟩ := Outcome.bind_ok_iff.1 h
    cases hd
    exact ⟨[], Outcome.bind_ok_iff.2 ⟨_, hshape, rfl⟩, .nil⟩
  | other =>
    cases h
    exact ⟨[], Outcome.bind_ok_iff.2 ⟨_, hshape, rfl⟩, .nil⟩

theorem isObject_of_forall₂ (h : List.Forall₂ FieldDecl.Declares fields decls)
    (ho : List.Forall₂ (fun f slot => slot.1 = f.ident ∧ f.type.holds slot.2 = true) decls object) :
    Accessor.IsObject fields object := by
  induction h generalizing object with
  | nil =>
    cases ho
    exact .nil
  | cons hf _ ih =>
    cases ho with
    | cons hslot hrest =>
      refine .cons ⟨hslot.1.trans hf.ident_eq, ?_⟩ (ih hrest)
      rw [← FieldType.holds_expr hf.type_eq]
      exact hslot.2

/-- The keys that are written are the wire names of the populated fields. -/
theorem FieldDecl.writtenKeys?_eq (h : List.Forall₂ Declares fields decls)
    (ho : Accessor.IsObject fields slots)
    (hl : ∀ slot ∈ slots, object.lookup slot.1 = some slot.2) :
    writtenKeys? object decls = some (Accessor.populatedNames fields slots) := by
  induction h generalizing slots with
  | nil =>
    cases ho
    rfl
  | cons hf _ ih =>
    cases ho with
    | @cons _ slot _ slots hslot hrest =>
      have hlookup := hl slot List.mem_cons_self
      rw [hslot.1, ← hf.ident_eq] at hlookup
      have ih := ih hrest fun r hr => hl r (List.mem_cons_of_mem _ hr)
      have hleftOut := hf.isLeftOut?_eq hslot.2
      simp only [writtenKeys?, hlookup, Option.bind_eq_bind, Option.bind_some, hleftOut, ih,
        hf.key_eq]
      cases hv : slot.2.isPopulated <;> simp [Accessor.populatedNames, hv]

theorem Field.raw_eq_false (h : Field.ofSchema s = .ok fields) (hf : f ∈ fields) :
    f.ident.raw = false := by
  obtain ⟨properties, hfields, _⟩ := Field.ofSchema_mirrors h
  obtain ⟨q, _, hq⟩ := Outcome.exists_of_forall₂ hfields hf
  obtain ⟨i, hi, hraw, _⟩ := Naming.exists_of_accepts_fieldName hq.accepted
  rw [hq.ident_eq, Option.some.injEq] at hi
  rw [hi, hraw]

/-- The statements between the first and the last one of an accessor. -/
theorem Accessor.body_ofFields_eq (type : Ident) (fields : List Field) :
    (ofFields type fields).body =
      if (fields.map check).isEmpty then []
      else .declare :: fields.map check ++ [.when .endsWithComma .pop] := by
  unfold ofFields
  cases fields <;> rfl

/-- The accessor of a unit lists what the declaration writes: field by field the same names under
opposite conditions, and so for every object exactly the keys that it is written with. -/
theorem TypeUnit.lists_written_keys (h : TypeUnit.ofSchema c s = .ok u) (ha : u.accessor = some a) :
    a.type = u.declaration.name ∧
      (∃ checks, List.Forall₂ FieldDecl.ListedBy u.declaration.namedFields checks ∧
        a.body = if checks.isEmpty then []
          else .declare :: checks ++ [.when .endsWithComma .pop]) ∧
      (∀ f ∈ u.declaration.namedFields, f.ident.raw = false) ∧
      ∀ object, u.declaration.IsInstance object →
        ∃ keys, FieldDecl.writtenKeys? object u.declaration.namedFields = some keys ∧
          a.run object = some (",".intercalate keys) := by
  have hunit := TypeUnit.composes_of_ofSchema h
  obtain ⟨fields, hfields, rfl⟩ := hunit.accessor_eq a ha
  obtain ⟨fields', hfields', hdeclares⟩ := Declaration.declares_namedFields hunit.declaration_eq
  obtain rfl : fields = fields' := Except.ok.inj (hfields.symm.trans hfields')
  refine ⟨?_, ⟨fields.map Accessor.check, ?_, Accessor.body_ofFields_eq ..⟩, ?_, ?_⟩
  · rw [hunit.declaration_name]
    unfold Accessor.ofFields
    split <;> rfl
  · rw [List.forall₂_map_right_iff]
    exact (hdeclares.imp fun _ _ hf => hf.listedBy_check).flip
  · intro decl hdecl
    obtain ⟨f, hf, hdeclared⟩ := Outcome.exists_of_forall₂ hdeclares hdecl
    rw [hdeclared.ident_eq]
    exact Field.raw_eq_false hfields hf
  · intro object hinstance
    have hobject := isObject_of_forall₂ hdeclares hinstance
    have hidents := Field.nodup_idents hfields
    have hlookup : ∀ slot ∈ object, object.lookup slot.1 = some slot.2 := fun slot hslot =>
      Accessor.lookup_of_isObject hobject hidents hslot
    exact ⟨_, FieldDecl.writtenKeys?_eq hdeclares hobject hlookup,
      Accessor.run_ofFields_of_isObject _ hobject hidents⟩

instance (d : Declaration) (object : Object) : Decidable (d.IsInstance object) :=
  inferInstanceAs (Decidable (List.Forall₂ _ _ _))

/-- A request schema whose fields are optional, a list, a map and required, two of them renamed. -/
def requestSchema : SchemaNode where
  id := "Video"
  kind := some .object
  properties := [("type", .of .string), ("videoTags", .arrayOf (.of .string)),
    ("labels", .mapOf (.of .integer)), ("title", { Property.of .string with required := true })]

def requestContext : Context where
  activities := [("Video", [("youtube.videos.insert", { request := true })])]

def requestObject : Object :=
  [(Accessor.plainName "type_", .option true),
    (Accessor.plainName "video_tags", .list 0),
    (Accessor.plainName "labels", .map 3),
    (Accessor.plainName "title", .plain)]

theorem lists_written_keys_video :
    ∃ u a, TypeUnit.ofSchema requestContext requestSchema = .ok u ∧ u.accessor = some a ∧
      u.declaration.IsInstance requestObject ∧
      FieldDecl.writtenKeys? requestObject u.declaration.namedFields =
        some ["type", "labels", "title"] ∧
      a.run requestObject = some "type,labels,title" := by
  have hall : ((TypeUnit.ofSchema requestContext requestSchema).toOption.any fun u =>
      u.accessor.isSome && u.declaration.IsInstance requestObject &&
        FieldDecl.writtenKeys? requestObject u.declaration.namedFields =
          some ["type", "labels", "title"]) = true := by decide +kernel
  cases hu : TypeUnit.ofSchema requestContext requestSchema with
  | error f =>
    rw [hu] at hall
    cases hall
  | ok u =>
    rw [hu] at hall
    simp only [Except.toOption, Option.any_some, Bool.and_eq_true, decide_eq_true_eq] at hall
    obtain ⟨⟨haccessor, hinstance⟩, hwritten⟩ := hall
    obtain ⟨a, ha⟩ := Option.isSome_iff_exists.1 haccessor
    obtain ⟨keys, hkeys, hrun⟩ :=
      (TypeUnit.lists_written_keys hu ha).2.2.2 requestObject hinstance
    rw [hwritten, Option.some.injEq] at hkeys
    subst hkeys
    exact ⟨u, a, rfl, ha, hinstance, hwritten, hrun⟩

end ApiTypes

import ApiTypes.Proofs.WrittenDocument
import Mathlib.Data.List.Perm.Basic
import Mathlib.Logic.Relation

/-!
Edits of a document that nobody notices. A structure that is written as an object is read by the
names of its fields, so members with other names may be added, whatever their values are, and all
members may change places. In a table, names and their order are data, and no edit touches them.
-/
namespace ApiTypes
open Json

/-- The structures that a document is made of. -/
inductive Record where
  | document
  | schema
  | property
  | resource
  | method
  | reference

/-- What a value in a document stands for. -/
inductive Part where
  | record (r : Record)
  /-- A table of structures. -/
  | table (r : Record)
  /-- A text, a truth value or a type tag. -/
  | plain

namespace Record

/-- The names of the fields. -/
def fieldNames : Record → List String
  | document => Document.fieldNames
  | schema => SchemaNode.fieldNames
  | property => Property.fieldNames
  | resource => Resource.fieldNames
  | method => Method.fieldNames
  | reference => Reference.fieldNames

/-- What the value of a field stands for. -/
def part : Record → String → Part
  | document, "schemas" => .table .schema
  | document, "resources" => .table .resource
  | schema, "properties" | property, "properties" => .table .property
  | schema, "items" | schema, "additionalProperties" => .record .property
  | property, "items" | property, "additionalProperties" => .record .property
  | resource, "methods" => .table .method
  | resource, "resources" => .table .resource
  | method, "request" | method, "response" => .record .reference
  | _, _ => .plain

end Record

/-- One edit: a member that no field is named after comes into an object, the members of an object
change places, or one of these happens further inside. -/
inductive Edit : Part → Value → Value → Prop where
  | insert {r : Record} {before after : List Member} {name : String} (v : Value)
      (unknown : name ∉ r.fieldNames) :
      Edit (.record r) (.object (before ++ after)) (.object (before ++ member name v :: after))
  | reorder {r : Record} {ms ms' : List Member} (perm : ms.Perm ms') :
      Edit (.record r) (.object ms) (.object ms')
  | field {r : Record} {before after : List Member} {name : String} {v v' : Value}
      (edit : Edit (r.part name) v v') :
      Edit (.record r) (.object (before ++ member name v :: after))
        (.object (before ++ member name v' :: after))
  | entry {r : Record} {before after : List Member} {key : Option String} {v v' : Value}
      (edit : Edit (.record r) v v') :
      Edit (.table r) (.object (before ++ (key, v) :: after))
        (.object (before ++ (key, v') :: after))

/-- Any number of edits, one after another. -/
abbrev Edits (part : Part) : Value → Value → Prop :=
  Relation.ReflTransGen (Edit part)

/-- What the reader makes of a value, it makes of the edited value. -/
def Keeps {α : Type} (part : Part) (read : Value → Option α) : Prop :=
  ∀ v v' a, Edit part v v' → read v = some a → read v' = some a

variable {α : Type} {r : Record} {v v' : Value} {ms ms' : List Member} {ps : List (String × Value)}
  {fields fields' : Table Value} {name : String} {read : Value → Option α} {room : Nat}

namespace Json

theorem named?_eq_some_iff : named? ms = some ps ↔ ms = members ps := by
  constructor
  · intro h
    induction ms generalizing ps with
    | nil =>
      cases h
      rfl
    | cons m ms ih =>
      rw [named?, List.mapM_cons] at h
      obtain ⟨p, hp, h⟩ := Option.bind_eq_some_iff.1 h
      obtain ⟨key, hkey, rfl⟩ := Option.map_eq_some_iff.1 hp
      obtain ⟨rest, hrest, h⟩ := Option.bind_eq_some_iff.1 h
      cases h
      rw [ih hrest, members, members, List.map_cons, member, ← hkey]
  · rintro rfl
    exact named?_members ps

/-- Objects are read by the members with a known name. -/
theorem fields?_object_iff {names : List String} :
    (Value.object ms).fields? names = some fields ↔
      ∃ ps, ms = members ps ∧ fields = ps.filter (names.contains ·.1) ∧
        (fields.map Prod.fst).Nodup := by
  simp only [Value.fields?, Option.bind_eq_bind, Option.bind_eq_some_iff, named?_eq_some_iff,
    Option.ite_none_right_eq_some, Option.some.injEq]
  constructor
  · rintro ⟨ps, hms, hnodup, rfl⟩
    exact ⟨ps, hms, rfl, hnodup⟩
  · rintro ⟨ps, hms, rfl, hnodup⟩
    exact ⟨ps, hms, hnodup, rfl⟩

/-- Members that have texts for keys have them in any order. -/
theorem exists_members_of_perm (h : (members ps).Perm ms) :
    ∃ ps', ms = members ps' ∧ ps.Perm ps' := by
  have hcomp : Relation.Comp (· = members ·) List.Perm ms ps := by
    unfold members
    rw [List.eq_map_comp_perm]
    exact h.symm
  obtain ⟨ps', hms, hperm⟩ := hcomp
  exact ⟨ps', hms, hperm.symm⟩

/-- Members around another one have texts for keys when all together have. -/
theorem exists_members_of_append {before after : List Member}
    (h : before ++ after = members ps) :
    ∃ front back, ps = front ++ back ∧ before = members front ∧ after = members back := by
  obtain ⟨front, back, rfl, rfl, rfl⟩ := List.map_eq_append_iff.1 h.symm
  exact ⟨front, back, rfl, rfl, rfl⟩

theorem exists_members_of_cons {m : Member} (h : m :: ms = members ps) :
    ∃ p rest, ps = p :: rest ∧ m = member p.1 p.2 ∧ ms = members rest := by
  obtain ⟨p, rest, rfl, rfl, rfl⟩ := List.map_eq_cons_iff.1 h.symm
  exact ⟨p, rest, rfl, rfl, rfl⟩

end Json

/-- The same fields have been found, but for edits inside their values. -/
def SameFields (r : Record) (fields fields' : Table Value) : Prop :=
  ∀ name, Table.get? fields' name = Table.get? fields name ∨
    ∃ v v', Table.get? fields name = some v ∧ Table.get? fields' name = some v' ∧
      Edit (r.part name) v v'

theorem SameFields.refl (r : Record) (fields : Table Value) : SameFields r fields fields :=
  fun _ => Or.inl rfl

theorem get?_eq_some_iff (hn : (fields.map Prod.fst).Nodup) :
    Table.get? fields name = some v ↔ (name, v) ∈ fields := by
  constructor
  · intro h
    obtain ⟨before, after, rfl, _⟩ := List.lookup_eq_some_iff.1 h
    simp
  · exact Table.lookup_of_mem hn

/-- The order of fields with different names does not matter to who looks for a name. -/
theorem SameFields.of_perm (hn : (fields.map Prod.fst).Nodup) (h : fields.Perm fields') :
    SameFields r fields fields' := by
  have hn' : (fields'.map Prod.fst).Nodup := (h.map Prod.fst).nodup_iff.1 hn
  intro name
  refine Or.inl (Option.ext fun v => ?_)
  rw [get?_eq_some_iff hn', get?_eq_some_iff hn, h.mem_iff]

/-- An edit inside the value of one field leaves all other fields alone. -/
theorem SameFields.of_edit {before after : Table Value}
    (hn : ((before ++ (name, v) :: after).map Prod.fst).Nodup) (h : Edit (r.part name) v v') :
    SameFields r (before ++ (name, v) :: after) (before ++ (name, v') :: after) := by
  have hn' : ((before ++ (name, v') :: after).map Prod.fst).Nodup := by simpa using hn
  intro name'
  by_cases hname : name' = name
  · subst hname
    refine Or.inr ⟨v, v', ?_, ?_, h⟩
    · exact (get?_eq_some_iff hn).2 (by simp)
    · exact (get?_eq_some_iff hn').2 (by simp)
  · left
    simp [Table.get?, List.lookup_append, List.lookup_cons, beq_eq_false_iff_ne.2 hname]

/-- The reader of a record finds the same fields after an edit. -/
theorem exists_fields?_of_edit (h : Edit (.record r) v v')
    (hf : v.fields? r.fieldNames = some fields) :
    ∃ fields', v'.fields? r.fieldNames = some fields' ∧ SameFields r fields fields' := by
  cases h with
  | @insert _ before after name w unknown =>
    obtain ⟨ps, hms, rfl, hn⟩ := fields?_object_iff.1 hf
    obtain ⟨front, back, rfl, rfl, rfl⟩ := exists_members_of_append hms
    refine ⟨_, fields?_object_iff.2 ⟨front ++ (name, w) :: back, ?_, rfl, ?_⟩, ?_⟩
    · simp [members]
    · simpa [unknown] using hn
    · simpa [unknown] using SameFields.refl r _
  | reorder perm =>
    obtain ⟨ps, rfl, rfl, hn⟩ := fields?_object_iff.1 hf
    obtain ⟨ps', rfl, hps⟩ := exists_members_of_perm perm
    have hknown := hps.filter (r.fieldNames.contains ·.1)
    refine ⟨_, fields?_object_iff.2 ⟨ps', rfl, rfl, ?_⟩, .of_perm hn hknown⟩
    exact (hknown.map Prod.fst).nodup_iff.1 hn
  | @field _ before after name w w' edit =>
    obtain ⟨ps, hms, rfl, hn⟩ := fields?_object_iff.1 hf
    obtain ⟨front, back, rfl, rfl, hback⟩ := exists_members_of_append hms
    obtain ⟨⟨name, w⟩, back, rfl, hmember, rfl⟩ := exists_members_of_cons hback
    cases hmember
    refine ⟨_, fields?_object_iff.2 ⟨front ++ (name, w') :: back, ?_, rfl, ?_⟩, ?_⟩
    · simp [members]
    · by_cases hname : name ∈ r.fieldNames <;> simpa [List.filter_cons, hname] using hn
    · by_cases hname : name ∈ r.fieldNames
      · simp only [List.filter_append, List.filter_cons, List.contains_eq_mem, hname, decide_true,
          if_true] at hn ⊢
        exact .of_edit hn edit
      · simpa [List.filter_cons, hname] using SameFields.refl r _

/-- Nothing but objects is edited. -/
theorem Edit.ne_null {part : Part} (h : Edit part v v') : v ≠ .null ∧ v' ≠ .null := by
  cases h <;> exact ⟨nofun, nofun⟩

theorem optional?_of_ne_null (hv : Table.get? fields name = some v) (hnull : v ≠ .null) :
    optional? fields name read = some <$> read v := by
  unfold optional?
  rw [hv]
  split
  · next h => cases h
  · next h => exact absurd (Option.some.inj h) hnull
  · next h =>
    cases h
    rfl

namespace SameFields
variable {o : Option α} {a default : α} (h : SameFields r fields fields')
include h

theorem optional? (ho : optional? fields name read = some o) (hread : Keeps (r.part name) read) :
    optional? fields' name read = some o := by
  rcases h name with heq | ⟨v, v', hv, hv', hedit⟩
  · rwa [Json.optional?, heq]
  · rw [optional?_of_ne_null hv hedit.ne_null.1] at ho
    rw [optional?_of_ne_null hv' hedit.ne_null.2]
    obtain ⟨a, ha, rfl⟩ := Option.map_eq_some_iff.1 ho
    exact Option.map_eq_some_iff.2 ⟨a, hread v v' a hedit ha, rfl⟩

theorem withDefault? (ha : withDefault? fields name read default = some a)
    (hread : Keeps (r.part name) read) : withDefault? fields' name read default = some a := by
  unfold Json.withDefault? at ha ⊢
  rcases h name with heq | ⟨v, v', hv, hv', hedit⟩
  · rwa [heq]
  · rw [hv] at ha
    rw [hv']
    exact hread v v' a hedit ha

theorem required? (ha : required? fields name read = some a) (hread : Keeps (r.part name) read) :
    required? fields' name read = some a := by
  unfold Json.required? at ha ⊢
  rcases h name with heq | ⟨v, v', hv, hv', hedit⟩
  · rwa [heq]
  · rw [hv] at ha
    rw [hv']
    exact hread v v' a hedit ha

end SameFields

/-- There is nothing to edit in a plain value. -/
theorem keeps_plain (read : Value → Option α) : Keeps .plain read := by
  intro v v' a h
  cases h

/-- What a table is made of changes only where its values are read differently. -/
theorem keeps_table? (hread : Keeps (.record r) read) : Keeps (.table r) (Value.table? read) := by
  intro v v' t h ht
  cases h with
  | @entry _ before after key w w' edit =>
    simp only [Value.table?, Option.bind_eq_bind, Option.bind_eq_some_iff, named?_eq_some_iff,
      Option.pure_def, Option.some.injEq] at ht ⊢
    obtain ⟨ps, hms, entries, hentries, rfl⟩ := ht
    obtain ⟨front, back, rfl, rfl, hback⟩ := exists_members_of_append hms
    obtain ⟨⟨key, w⟩, back, rfl, hmember, rfl⟩ := exists_members_of_cons hback
    cases hmember
    refine ⟨front ++ (key, w') :: back, by simp [members, member], entries, ?_, rfl⟩
    rw [← hentries, List.mapM_append, List.mapM_append, List.mapM_cons, List.mapM_cons]
    cases hw : read w with
    | some a => rw [hread w w' a edit hw]
    | none =>
      rw [List.mapM_append, List.mapM_cons, hw] at hentries
      simp at hentries

theorem keeps_decodeTable {read : Nat → Value → Option α}
    (hread : ∀ k < room, Keeps (.record r) (read k)) :
    Keeps (.table r) (decodeTable room read) := by
  cases room with
  | zero =>
    intro _ _ _ _ h
    cases h
  | succ room => exact keeps_table? (hread room (Nat.lt_succ_self room))

theorem Reference.keeps_decode (room : Nat) : Keeps (.record .reference) (decode room) := by
  intro v v' r hedit h
  cases room with
  | zero => cases h
  | succ room =>
    simp only [decode, Option.bind_eq_bind, Option.bind_eq_some_iff, Option.pure_def,
      Option.some.injEq] at h
    obtain ⟨fields, hfields, target, htarget, rfl⟩ := h
    obtain ⟨fields', hfields', hsame⟩ := exists_fields?_of_edit hedit hfields
    replace hfields' : v'.fields? fieldNames = some fields' := hfields'
    simp only [decode, hfields', hsame.required? htarget (keeps_plain _), Option.bind_eq_bind,
      Option.bind_some]
    rfl

theorem Method.keeps_decode (room : Nat) : Keeps (.record .method) (decode room) := by
  intro v v' m hedit h
  cases room with
  | zero => cases h
  | succ room =>
    simp only [decode, Option.bind_eq_bind, Option.bind_eq_some_iff, Option.pure_def,
      Option.some.injEq] at h
    obtain ⟨fields, hfields, id, hid, http, hhttp, path, hpath, description, hdescription, request,
      hrequest, response, hresponse, rfl⟩ := h
    obtain ⟨fields', hfields', hsame⟩ := exists_fields?_of_edit hedit hfields
    replace hfields' : v'.fields? fieldNames = some fields' := hfields'
    have hreference := Reference.keeps_decode room
    simp only [decode, hfields', hsame.withDefault? hid (keeps_plain _),
      hsame.optional? hhttp (keeps_plain _), hsame.optional? hpath (keeps_plain _),
      hsame.optional? hdescription (keeps_plain _), hsame.optional? hrequest hreference,
      hsame.optional? hresponse hreference, Option.bind_eq_bind, Option.bind_some]
    rfl

theorem Property.keeps_decode (room : Nat) : Keeps (.record .property) (decode room) := by
  induction room using Nat.strongRecOn with
  | ind room ih =>
  intro v v' p hedit h
  cases room with
  | zero => cases h
  | succ room =>
    simp only [decode_succ, Option.bind_eq_bind, Option.bind_eq_some_iff, Option.pure_def,
      Option.some.injEq] at h
    obtain ⟨fields, hfields, kind, hkind, reference, hreference, description, hdescription, format,
      hformat, required, hrequired, items, hitems, additional, hadditional, properties,
      hproperties, rfl⟩ := h
    obtain ⟨fields', hfields', hsame⟩ := exists_fields?_of_edit hedit hfields
    replace hfields' : v'.fields? fieldNames = some fields' := hfields'
    have hinner : Keeps (.record .property) (decode room) := ih room (Nat.lt_succ_self room)
    have htable : Keeps (.table .property) (decodeTable room decode) :=
      keeps_decodeTable fun k hk => ih k (Nat.lt_succ_of_lt hk)
    simp only [decode_succ, hfields', hsame.optional? hkind (keeps_plain _),
      hsame.optional? hreference (keeps_plain _), hsame.optional? hdescription (keeps_plain _),
      hsame.optional? hformat (keeps_plain _), hsame.withDefault? hrequired (keeps_plain _),
      hsame.optional? hitems hinner, hsame.optional? hadditional hinner,
      hsame.optional? hproperties htable, Option.bind_eq_bind, Option.bind_some]
    rfl

theorem SchemaNode.keeps_decode (room : Nat) : Keeps (.record .schema) (decode room) := by
  intro v v' s hedit h
  cases room with
  | zero => cases h
  | succ room =>
    simp only [decode, Option.bind_eq_bind, Option.bind_eq_some_iff, Option.pure_def,
      Option.some.injEq] at h
    obtain ⟨fields, hfields, id, hid, kind, hkind, description, hdescription, format, hformat,
      properties, hproperties, items, hitems, additional, hadditional, rfl⟩ := h
    obtain ⟨fields', hfields', hsame⟩ := exists_fields?_of_edit hedit hfields
    replace hfields' : v'.fields? fieldNames = some fields' := hfields'
    have hinner := Property.keeps_decode room
    have htable : Keeps (.table .property) (decodeTable room Property.decode) :=
      keeps_decodeTable fun k _ => Property.keeps_decode k
    simp only [decode, hfields', hsame.withDefault? hid (keeps_plain _),
      hsame.optional? hkind (keeps_plain _), hsame.optional? hdescription (keeps_plain _),
      hsame.optional? hformat (keeps_plain _), hsame.withDefault? hproperties htable,
      hsame.optional? hitems hinner, hsame.optional? hadditional hinner, Option.bind_eq_bind,
      Option.bind_some]
    rfl

theorem Resource.keeps_decode (room : Nat) : Keeps (.record .resource) (decode room) := by
  induction room using Nat.strongRecOn with
  | ind room ih =>
  intro v v' res hedit h
  cases room with
  | zero => cases h
  | succ room =>
    simp only [decode_succ, Option.bind_eq_bind, Option.bind_eq_some_iff, Option.pure_def,
      Option.some.injEq] at h
    obtain ⟨fields, hfields, methods, hmethods, resources, hresources, rfl⟩ := h
    obtain ⟨fields', hfields', hsame⟩ := exists_fields?_of_edit hedit hfields
    replace hfields' : v'.fields? fieldNames = some fields' := hfields'
    have hmethodTable : Keeps (.table .method) (decodeTable room Method.decode) :=
      keeps_decodeTable fun k _ => Method.keeps_decode k
    have htable : Keeps (.table .resource) (decodeTable room decode) :=
      keeps_decodeTable fun k hk => ih k (Nat.lt_succ_of_lt hk)
    simp only [decode_succ, hfields', hsame.withDefault? hmethods hmethodTable,
      hsame.withDefault? hresources htable, Option.bind_eq_bind, Option.bind_some]
    rfl

namespace Document
variable {d : Document} {text text' : String}

theorem keeps_decode (room : Nat) : Keeps (.record .document) (decode room) := by
  intro v v' d hedit h
  cases room with
  | zero => cases h
  | succ room =>
    simp only [decode, Option.bind_eq_bind, Option.bind_eq_some_iff, Option.pure_def,
      Option.some.injEq] at h
    obtain ⟨fields, hfields, name, hname, version, hversion, title, htitle, description,
      hdescription, schemas, hschemas, resources, hresources, rfl⟩ := h
    obtain ⟨fields', hfields', hsame⟩ := exists_fields?_of_edit hedit hfields
    replace hfields' : v'.fields? fieldNames = some fields' := hfields'
    have hschemaTable : Keeps (.table .schema) (decodeTable room SchemaNode.decode) :=
      keeps_decodeTable fun k _ => SchemaNode.keeps_decode k
    have hresourceTable : Keeps (.table .resource) (decodeTable room Resource.decode) :=
      keeps_decodeTable fun k _ => Resource.keeps_decode k
    simp only [decode, hfields', hsame.withDefault? hname (keeps_plain _),
      hsame.withDefault? hversion (keeps_plain _), hsame.optional? htitle (keeps_plain _),
      hsame.optional? hdescription (keeps_plain _), hsame.withDefault? hschemas hschemaTable,
      hsame.withDefault? hresources hresourceTable, Option.bind_eq_bind, Option.bind_some]
    rfl

theorem decode_of_edits {room : Nat} (hedits : Edits (.record .document) v v')
    (h : decode room v = some d) : decode room v' = some d := by
  induction hedits with
  | refl => exact h
  | tail _ hedit ih => exact keeps_decode room _ _ d hedit ih

/-- Where a text describes a document, so does each text of an edited value, and the same one. -/
theorem ofText?_of_edits (htext : Value.ofText? text = some v)
    (htext' : Value.ofText? text' = some v') (hedits : Edits (.record .document) v v')
    (h : ofText? text = some d) : ofText? text' = some d := by
  rw [ofText?, htext, Option.bind_eq_bind, Option.bind_some] at h
  rw [ofText?, htext', Option.bind_eq_bind, Option.bind_some]
  exact decode_of_edits hedits h

/-- A document with one schema, as a value. -/
def plainValue : Value :=
  .object [member "name" (.text "video"),
    member "schemas" (.object [member "Video" (.object [member "type" (.text "object")])])]

/-- The same with two members more, one of them inside the schema, and its own members exchanged.
The new members hold what no field could: a lone surrogate, and an array for a text. -/
def editedValue : Value :=
  .object [member "schemas" (.object [member "Video" (.object
      [member "title" (.array [.array [.null]]), member "type" (.text "object")])]),
    member "kind" (.string none), member "name" (.text "video")]

theorem edits_plainValue : Edits (.record .document) plainValue editedValue := by
  have htitle : Edit (.record .schema) (.object [member "type" (.text "object")])
      (.object [member "title" (.array [.array [.null]]), member "type" (.text "object")]) :=
    @Edit.insert .schema [] _ "title" _ (by decide)
  have hschema := @Edit.field .document [member "name" (.text "video")] [] "schemas" _ _
    (@Edit.entry .schema [] [] (some "Video") _ _ htitle)
  have hkind := @Edit.insert .document [member "name" (.text "video")]
    [member "schemas" (.object [member "Video" (.object
      [member "title" (.array [.array [.null]]), member "type" (.text "object")])])]
    "kind" (.string none) (by decide)
  refine ((Relation.ReflTransGen.single hschema).tail hkind).tail (.reorder ?_)
  exact (List.reverse_perm _).symm

theorem numberFree_plainValue : plainValue.NumberFree := by
  refine .object ?_
  simp only [List.forall_mem_cons]
  refine ⟨.string _, .object ?_, nofun⟩
  simp only [List.forall_mem_cons]
  refine ⟨.object ?_, nofun⟩
  simp only [List.forall_mem_cons]
  exact ⟨.string _, nofun⟩

theorem numberFree_editedValue : editedValue.NumberFree := by
  have hnested : (Value.array [.array [.null]]).NumberFree := by
    refine .array ?_
    simp only [List.forall_mem_singleton]
    exact .array (by simpa using Value.NumberFree.null)
  refine .object ?_
  simp only [List.forall_mem_cons]
  refine ⟨.object ?_, .string _, .string _, nofun⟩
  simp only [List.forall_mem_cons]
  refine ⟨.object ?_, nofun⟩
  simp only [List.forall_mem_cons]
  exact ⟨hnested, .string _, nofun⟩

theorem ofText?_of_edits_video :
    Value.ofText? plainValue.render = some plainValue ∧
      Value.ofText? editedValue.render = some editedValue ∧
      Edits (.record .document) plainValue editedValue ∧
      ∃ d, ofText? plainValue.render = some d ∧ ofText? editedValue.render = some d := by
  have hplain : Value.ofText? plainValue.render = some plainValue :=
    Value.ofText?_render numberFree_plainValue
  have hedited : Value.ofText? editedValue.render = some editedValue :=
    Value.ofText?_render numberFree_editedValue
  have hread : ofText? plainValue.render = some
      { name := "video", schemas := [("Video", { kind := some .object })] } := by
    rw [ofText?, hplain]
    rfl
  exact ⟨hplain, hedited, edits_plainValue, _, hread,
    ofText?_of_edits hplain hedited edits_plainValue hread⟩

end Document

end ApiTypes

import ApiTypes.Proofs.OutputDirectory
import ApiTypes.Proofs.WrittenDocument

/-!
Documents that are loaded, written and loaded again. Loading gives ids to the schemas that have
none and changes nothing else. However a document was spelled, it is written as objects that hold no
name twice and that nest no deeper than what was read, so that it can be loaded from what was
written, and has all its ids by then.
-/
namespace ApiTypes
open Json

/-- What the reader accepts has the property `P`, and can be written within the room. -/
def Rewrites {α : Type} (room : Nat) (P : α → Prop) (write : α → Value)
    (read : Value → Option α) : Prop :=
  ∀ v a, read v = some a → P a ∧ (write a).depth ≤ room

/-- No name stands twice in the table, and all its values have the property `P`. -/
def Table.Distinct {α : Type} (P : α → Prop) (t : Table α) : Prop :=
  t.keys.Nodup ∧ ∀ e ∈ t, P e.2

theorem Table.nodup_keys_ofPairs {α : Type} (pairs : List (String × α)) :
    (ofPairs pairs).keys.Nodup := by
  suffices ∀ t : Table α, t.keys.Nodup →
      (pairs.foldl (fun t p => insert t p.1 p.2) t).keys.Nodup from this [] .nil
  induction pairs with
  | nil => exact fun _ ht => ht
  | cons p rest ih => exact fun t ht => ih _ (nodup_keys_adjust _ ht)

section readers
variable {α : Type} {P : α → Prop} {write : α → Value} {read : Value → Option α}
  {fields : Table Value} {name : String} {room k : Nat} {v : Value} {t : Table α}
  {slots : List (String × Option Value)}

theorem depth_object_le {ms : List Member} (h : ∀ m ∈ ms, m.2.depth ≤ k) :
    (Value.object ms).depth ≤ k + 1 := by
  have hms : membersDepth ms ≤ k := by
    induction ms with
    | nil => exact Nat.zero_le k
    | cons m rest ih =>
      obtain ⟨hm, hrest⟩ := List.forall_mem_cons.1 h
      exact Nat.max_le.2 ⟨hm, ih hrest⟩
  rw [Value.depth]
  omega

/-- A record nests one level deeper than its fields. -/
theorem depth_record_le_succ (h : ∀ slot ∈ slots, ∀ v, slot.2 = some v → v.depth ≤ k) :
    (Value.record slots).depth ≤ k + 1 := by
  refine depth_object_le fun m hm => ?_
  obtain ⟨f, hf, rfl⟩ := List.mem_map.1 hm
  exact h _ (mem_present.1 hf) f.2 rfl

theorem depth_ofTable_le (h : ∀ e ∈ t, (write e.2).depth ≤ k) :
    (Value.ofTable write t).depth ≤ k + 1 := by
  refine depth_object_le fun m hm => ?_
  obtain ⟨e, he, rfl⟩ := List.mem_map.1 hm
  exact h e he

theorem Rewrites.of_optional? (hread : Rewrites room P write read) {o : Option α}
    (h : optional? fields name read = some o) :
    (∀ a, o = some a → P a) ∧ ∀ v, o.map write = some v → v.depth ≤ room := by
  have hvalue : ∀ a, o = some a → P a ∧ (write a).depth ≤ room := by
    rintro a rfl
    unfold optional? at h
    split at h
    · cases h
    · cases h
    · obtain ⟨b, hb, hba⟩ := Option.map_eq_some_iff.1 h
      cases hba
      exact hread _ _ hb
  refine ⟨fun a ha => (hvalue a ha).1, fun v hv => ?_⟩
  obtain ⟨a, ha, rfl⟩ := Option.map_eq_some_iff.1 hv
  exact (hvalue a ha).2

/-- The tables that a reader accepts are those of storing one value after another. -/
theorem rewrites_decodeTable {read : Nat → Value → Option α}
    (hread : ∀ k < room, Rewrites k P write (read k)) :
    Rewrites room (Table.Distinct P) (Value.ofTable write) (decodeTable room read) := by
  intro v t h
  cases room with
  | zero => cases h
  | succ room =>
    have hvalues : ∀ e ∈ t, P e.2 ∧ (write e.2).depth ≤ room := by
      intro e he
      obtain ⟨w, hw⟩ := exists_read_of_mem_table? h he
      exact hread room (Nat.lt_succ_self room) _ _ hw
    have hkeys : t.keys.Nodup := by
      replace h : v.table? (read room) = some t := h
      unfold Value.table? at h
      split at h
      · obtain ⟨_, _, h⟩ := Option.bind_eq_some_iff.1 h
        obtain ⟨entries, _, h⟩ := Option.bind_eq_some_iff.1 h
        cases h
        exact Table.nodup_keys_ofPairs entries
      · cases h
    exact ⟨⟨hkeys, fun e he => (hvalues e he).1⟩, depth_ofTable_le fun e he => (hvalues e he).2⟩

/-- A table that may be left out is empty then. -/
theorem Rewrites.of_withDefault? {read : Value → Option (Table α)}
    (hread : Rewrites room (Table.Distinct P) (Value.ofTable write) read)
    (h : withDefault? fields name read [] = some t) :
    t.Distinct P ∧ (t ≠ [] → (Value.ofTable write t).depth ≤ room) := by
  unfold withDefault? at h
  split at h
  · obtain ⟨ht, hdepth⟩ := hread _ _ h
    exact ⟨ht, fun _ => hdepth⟩
  · cases h
    exact ⟨⟨.nil, nofun⟩, fun hne => absurd rfl hne⟩

theorem depth_tableSlot_le (h : t ≠ [] → (Value.ofTable write t).depth ≤ room) (v : Value)
    (hv : tableSlot write t = some v) : v.depth ≤ room := by
  rw [tableSlot] at hv
  split at hv
  · cases hv
  next hne =>
    cases hv
    exact h (by simpa using hne)

theorem depth_text_map_le {o : Option String} (v : Value) (hv : o.map Value.text = some v) :
    v.depth ≤ room := by
  obtain ⟨a, -, rfl⟩ := Option.map_eq_some_iff.1 hv
  exact Nat.zero_le room

end readers

theorem Reference.rewrites_decode (room : Nat) :
    Rewrites room (fun _ => True) encode (decode room) := by
  intro v r h
  cases room with
  | zero => cases h
  | succ room =>
    refine ⟨trivial, ?_⟩
    rw [encode_eq]
    refine depth_record_le_succ ?_
    simp only [slots, List.forall_mem_singleton, Option.some.injEq]
    rintro _ rfl
    exact Nat.zero_le room

theorem Method.rewrites_decode (room : Nat) :
    Rewrites room (fun _ => True) encode (decode room) := by
  intro v m h
  cases room with
  | zero => cases h
  | succ room =>
    simp only [decode, Option.bind_eq_bind, Option.bind_eq_some_iff, Option.pure_def,
      Option.some.injEq] at h
    obtain ⟨fields, -, id, -, http, -, path, -, description, -, request, hrequest, response,
      hresponse, rfl⟩ := h
    have hreference := Reference.rewrites_decode room
    refine ⟨trivial, ?_⟩
    rw [encode_eq]
    refine depth_record_le_succ ?_
    simp only [slots, List.forall_mem_cons]
    refine ⟨?_, depth_text_map_le, depth_text_map_le, depth_text_map_le,
      (hreference.of_optional? hrequest).2, (hreference.of_optional? hresponse).2,
      List.forall_mem_nil _⟩
    rintro _ ⟨⟩
    exact Nat.zero_le room

theorem JsonType.rewrites_decode (room : Nat) :
    Rewrites room (fun _ => True) encode (decode room) :=
  fun _ _ _ => ⟨trivial, Nat.zero_le room⟩

/-- What is read as a property has no field twice, and is as shallow as what was read. -/
theorem Property.rewrites_decode (room : Nat) :
    Rewrites room DistinctKeys encode (decode room) := by
  induction room using Nat.strongRecOn with
  | ind room ih =>
  intro v p h
  cases room with
  | zero => cases h
  | succ room =>
    simp only [decode_succ, Option.bind_eq_bind, Option.bind_eq_some_iff, Option.pure_def,
      Option.some.injEq] at h
    obtain ⟨fields, -, kind, hkind, reference, -, description, -, format, -, required, -, items,
      hitems, additional, hadditional, properties, hproperties, rfl⟩ := h
    have hinner : Rewrites room DistinctKeys encode (decode room) := ih room (Nat.lt_succ_self room)
    have htable : Rewrites room (Table.Distinct DistinctKeys) (Value.ofTable encode)
        (decodeTable room decode) :=
      rewrites_decodeTable fun k hk => ih k (Nat.lt_succ_of_lt hk)
    have hkindDepth := ((JsonType.rewrites_decode room).of_optional? hkind).2
    obtain ⟨hitemsKeys, hitemsDepth⟩ := hinner.of_optional? hitems
    obtain ⟨hadditionalKeys, hadditionalDepth⟩ := hinner.of_optional? hadditional
    obtain ⟨hpropertiesKeys, hpropertiesDepth⟩ := htable.of_optional? hproperties
    refine ⟨.intro hitemsKeys hadditionalKeys (fun t ht => (hpropertiesKeys t ht).1)
      fun t ht => (hpropertiesKeys t ht).2, ?_⟩
    rw [encode_eq]
    refine depth_record_le_succ ?_
    simp only [slots, List.forall_mem_cons]
    refine ⟨hkindDepth, depth_text_map_le, depth_text_map_le, depth_text_map_le, ?_, hitemsDepth,
      hadditionalDepth, hpropertiesDepth, List.forall_mem_nil _⟩
    intro v hv
    split at hv
    · cases hv
      exact Nat.zero_le room
    · cases hv

theorem SchemaNode.rewrites_decode (room : Nat) :
    Rewrites room DistinctKeys encode (decode room) := by
  intro v s h
  cases room with
  | zero => cases h
  | succ room =>
    simp only [decode, Option.bind_eq_bind, Option.bind_eq_some_iff, Option.pure_def,
      Option.some.injEq] at h
    obtain ⟨fields, -, id, -, kind, hkind, description, -, format, -, properties, hproperties,
      items, hitems, additional, hadditional, rfl⟩ := h
    have hproperty := Property.rewrites_decode room
    have htable : Rewrites room (Table.Distinct Property.DistinctKeys)
        (Value.ofTable Property.encode) (decodeTable room Property.decode) :=
      rewrites_decodeTable fun k _ => Property.rewrites_decode k
    have hkindDepth := ((JsonType.rewrites_decode room).of_optional? hkind).2
    obtain ⟨hitemsKeys, hitemsDepth⟩ := hproperty.of_optional? hitems
    obtain ⟨hadditionalKeys, hadditionalDepth⟩ := hproperty.of_optional? hadditional
    obtain ⟨⟨hkeys, hfields⟩, hdepth⟩ := htable.of_withDefault? hproperties
    refine ⟨⟨hkeys, hfields, hitemsKeys, hadditionalKeys⟩, ?_⟩
    rw [encode_eq]
    refine depth_record_le_succ ?_
    simp only [slots, List.forall_mem_cons]
    refine ⟨?_, hkindDepth, depth_text_map_le, depth_text_map_le, depth_tableSlot_le hdepth,
      hitemsDepth, hadditionalDepth, List.forall_mem_nil _⟩
    rintro _ ⟨⟩
    exact Nat.zero_le room

theorem Resource.rewrites_decode (room : Nat) :
    Rewrites room DistinctKeys encode (decode room) := by
  induction room using Nat.strongRecOn with
  | ind room ih =>
  intro v r h
  cases room with
  | zero => cases h
  | succ room =>
    simp only [decode_succ, Option.bind_eq_bind, Option.bind_eq_some_iff, Option.pure_def,
      Option.some.injEq] at h
    obtain ⟨fields, -, methods, hmethods, resources, hresources, rfl⟩ := h
    have hmethodTable : Rewrites room (Table.Distinct fun _ => True) (Value.ofTable Method.encode)
        (decodeTable room Method.decode) :=
      rewrites_decodeTable fun k _ => Method.rewrites_decode k
    have hresourceTable : Rewrites room (Table.Distinct DistinctKeys) (Value.ofTable encode)
        (decodeTable room decode) :=
      rewrites_decodeTable fun k hk => ih k (Nat.lt_succ_of_lt hk)
    obtain ⟨⟨hmethodKeys, -⟩, hmethodDepth⟩ := hmethodTable.of_withDefault? hmethods
    obtain ⟨⟨hkeys, hinner⟩, hdepth⟩ := hresourceTable.of_withDefault? hresources
    refine ⟨.intro hmethodKeys hkeys hinner, ?_⟩
    rw [encode_eq]
    refine depth_record_le_succ ?_
    simp only [slots, List.forall_mem_cons]
    exact ⟨depth_tableSlot_le hmethodDepth, depth_tableSlot_le hdepth, List.forall_mem_nil _⟩

namespace Document
variable {d : Document} {room : Nat} {v : Value}

/-- The document can be written with two levels more than its schemas and resources have. -/
theorem depth_encode_le (hschemas : ∀ e ∈ d.schemas, e.2.encode.depth ≤ room)
    (hresources : ∀ e ∈ d.resources, e.2.encode.depth ≤ room) : d.encode.depth ≤ room + 2 := by
  rw [encode_eq]
  refine depth_record_le_succ ?_
  simp only [slots, List.forall_mem_cons]
  refine ⟨?_, ?_, depth_text_map_le, depth_text_map_le, ?_, ?_, List.forall_mem_nil _⟩
  · rintro _ ⟨⟩
    exact Nat.zero_le _
  · rintro _ ⟨⟩
    exact Nat.zero_le _
  · rintro _ ⟨⟩
    exact depth_ofTable_le hschemas
  · rintro _ ⟨⟩
    exact depth_ofTable_le hresources

theorem distinctKeys_of_decode (h : decode (room + 2) v = some d) :
    d.DistinctKeys ∧ (∀ e ∈ d.schemas, e.2.encode.depth ≤ room) ∧
      ∀ e ∈ d.resources, e.2.encode.depth ≤ room := by
  simp only [decode, Option.bind_eq_bind, Option.bind_eq_some_iff, Option.pure_def,
    Option.some.injEq] at h
  obtain ⟨fields, -, name, -, version, -, title, -, description, -, schemas, hschemas, resources,
    hresources, rfl⟩ := h
  have hschemaTable : Rewrites (room + 1) (Table.Distinct SchemaNode.DistinctKeys)
      (Value.ofTable SchemaNode.encode) (decodeTable (room + 1) SchemaNode.decode) :=
    rewrites_decodeTable fun k _ => SchemaNode.rewrites_decode k
  have hresourceTable : Rewrites (room + 1) (Table.Distinct Resource.DistinctKeys)
      (Value.ofTable Resource.encode) (decodeTable (room + 1) Resource.decode) :=
    rewrites_decodeTable fun k _ => Resource.rewrites_decode k
  obtain ⟨⟨hschemaKeys, hschemaFields⟩, hschemaDepth⟩ := hschemaTable.of_withDefault? hschemas
  obtain ⟨⟨hresourceKeys, hresourceFields⟩, hresourceDepth⟩ :=
    hresourceTable.of_withDefault? hresources
  refine ⟨⟨hschemaKeys, hschemaFields, hresourceKeys, hresourceFields⟩, ?_, ?_⟩
  · intro e he
    have hdepth : (Value.ofTable SchemaNode.encode schemas).depth ≤ room + 1 :=
      hschemaDepth (List.ne_nil_of_mem he)
    exact Nat.lt_succ_iff.1 ((depth_lt_ofTable SchemaNode.encode he).trans_le hdepth)
  · intro e he
    have hdepth : (Value.ofTable Resource.encode resources).depth ≤ room + 1 :=
      hresourceDepth (List.ne_nil_of_mem he)
    exact Nat.lt_succ_iff.1 ((depth_lt_ofTable Resource.encode he).trans_le hdepth)

/-- An entry of the catalog whose schema has an id: its own, or else the key it stands under. -/
def named (e : String × SchemaNode) : String × SchemaNode :=
  (e.1, if e.2.id.isEmpty then { e.2 with id := e.1 } else e.2)

theorem schemas_nameSchemas (d : Document) : d.nameSchemas.schemas = d.schemas.map named := rfl

theorem keys_nameSchemas (d : Document) : d.nameSchemas.schemas.keys = d.schemas.keys := by
  rw [schemas_nameSchemas, Table.keys, Table.keys, List.map_map]
  rfl

theorem forall_mem_nameSchemas {P : String × SchemaNode → Prop} :
    (∀ e ∈ d.nameSchemas.schemas, P e) ↔ ∀ e ∈ d.schemas, P (named e) := by
  rw [schemas_nameSchemas]
  exact List.forall_mem_map

theorem nested_named (e : String × SchemaNode) : (named e).2.nested = e.2.nested := by
  unfold named
  split <;> rfl

theorem distinctKeys_named {e : String × SchemaNode} (h : e.2.DistinctKeys) :
    (named e).2.DistinctKeys := by
  unfold named
  split
  · exact ⟨h.keys, h.fields, h.items, h.additional⟩
  · exact h

/-- An id is a text, which nests nowhere. -/
theorem depth_encode_named (e : String × SchemaNode) :
    (named e).2.encode.depth = e.2.encode.depth := by
  unfold named
  split <;> rfl

/-- A key that is empty itself makes no difference: it is the id then, early or late. -/
theorem named_named (e : String × SchemaNode) : named (named e) = named e := by
  unfold named
  by_cases hid : e.2.id.isEmpty
  · by_cases hkey : e.1.isEmpty <;> simp [hid, hkey]
  · simp [hid]

theorem nameSchemas_nameSchemas (d : Document) : d.nameSchemas.nameSchemas = d.nameSchemas := by
  have hschemas : (d.schemas.map named).map named = d.schemas.map named := by
    rw [List.map_map]
    exact List.map_congr_left fun e _ => named_named e
  exact congrArg (fun schemas => { d with schemas := schemas }) hschemas

theorem DistinctKeys.nameSchemas (hd : d.DistinctKeys) : d.nameSchemas.DistinctKeys where
  schemaKeys := by
    rw [keys_nameSchemas]
    exact hd.schemaKeys
  schemas := forall_mem_nameSchemas.2 fun e he => distinctKeys_named (hd.schemas e he)
  resourceKeys := hd.resourceKeys
  resources := hd.resources

/-- The second document is the first one with ids: each schema without an id has its key for one,
and nothing else differs. -/
structure FillsIds (d d' : Document) : Prop where
  name : d'.name = d.name
  version : d'.version = d.version
  title : d'.title = d.title
  description : d'.description = d.description
  resources : d'.resources = d.resources
  schemas : d.schemas.Forall₂ (fun e e' => e'.1 = e.1 ∧
    (e.2.id = "" → e'.2 = { e.2 with id := e.1 }) ∧ (e.2.id ≠ "" → e'.2 = e.2)) d'.schemas

theorem fillsIds_nameSchemas (d : Document) : d.FillsIds d.nameSchemas where
  name := rfl
  version := rfl
  title := rfl
  description := rfl
  resources := rfl
  schemas := by
    rw [schemas_nameSchemas, List.forall₂_map_right_iff, List.forall₂_same]
    intro e _
    refine ⟨rfl, fun hid => ?_, fun hid => ?_⟩
    · simp [named, hid]
    · simp [named, hid]

theorem load_ok_iff {path text : String} :
    load path (some text) = .ok d ↔ ∃ d₀, ofText? text = some d₀ ∧ d₀.nameSchemas = d := by
  unfold load Outcome.fail
  cases htext : ofText? text <;> simp [htext]

/-- A loaded document has all its ids, and can be written within the depth of a document. -/
theorem ofText?_render_nameSchemas (h : decode maxDepth v = some d) :
    ofText? d.nameSchemas.encode.render = some d.nameSchemas := by
  obtain ⟨hkeys, hschemas, hresources⟩ := distinctKeys_of_decode h
  have hread : Value.ofText? d.nameSchemas.encode.render = some d.nameSchemas.encode :=
    Value.ofText?_render (numberFree_encode hkeys.nameSchemas)
  have hmarks : ∀ e ∈ d.nameSchemas.schemas, e.2.nested = false := by
    refine forall_mem_nameSchemas.2 fun e he => ?_
    obtain ⟨_, _, hw⟩ := exists_decode_of_mem_schemas h he
    rw [nested_named, SchemaNode.nested_of_decode hw]
  have hschemaDepth : ∀ e ∈ d.nameSchemas.schemas, e.2.encode.depth ≤ 125 :=
    forall_mem_nameSchemas.2 fun e he => (depth_encode_named e).trans_le (hschemas e he)
  have hdepth : d.nameSchemas.encode.depth ≤ maxDepth := depth_encode_le hschemaDepth hresources
  rw [ofText?, hread, Option.bind_eq_bind, Option.bind_some]
  exact decode_encode hkeys.nameSchemas hmarks hdepth

/-- Loading a file gives the document that its text describes, with an id for each schema that has
none, and a file with the loaded document, written anew, is loaded as the same document. -/
theorem load_fillsIds_reload {path : String} {content : ByteArray}
    (h : load path (String.fromUTF8? content) = .ok d) :
    ∃ text parsed, String.fromUTF8? content = some text ∧ ofText? text = some parsed ∧
      parsed.FillsIds d ∧
      ∀ path', load path' (String.fromUTF8? d.encode.render.toUTF8) = .ok d := by
  cases htext : String.fromUTF8? content with
  | none =>
    rw [htext] at h
    cases h
  | some text =>
    rw [htext] at h
    obtain ⟨parsed, hparsed, rfl⟩ := load_ok_iff.1 h
    refine ⟨text, parsed, rfl, hparsed, fillsIds_nameSchemas parsed, fun path' => ?_⟩
    obtain ⟨v, -, hv⟩ := Option.bind_eq_some_iff.1 hparsed
    rw [Run.fromUTF8?_toUTF8]
    exact load_ok_iff.2 ⟨_, ofText?_render_nameSchemas hv, nameSchemas_nameSchemas parsed⟩

/-- A document with a schema that is written by position, a key that comes twice, a null and a
member that nobody knows. -/
def looseValue : Value :=
  .object
    [member "nobody" (.array []), member "name" (.text "video"), member "title" .null,
      member "schemas" (.object
        [member "Video" (.array [.text "", .text "array"]),
          member "Clip" (.object [member "id" (.text "clip")]),
          member "Video" (.object [member "type" (.text "object")])])]

def looseDocument : Document where
  name := "video"
  schemas := [("Video", { id := "Video", kind := some .object }), ("Clip", { id := "clip" })]

theorem load_looseValue (path : String) :
    load path (String.fromUTF8? looseValue.render.toUTF8) = .ok looseDocument := by
  rw [Run.fromUTF8?_toUTF8, load_render]
  rfl

theorem load_fillsIds_reload_loose :
    load "video.json" (String.fromUTF8? looseValue.render.toUTF8) = .ok looseDocument ∧
      ∃ text parsed, String.fromUTF8? looseValue.render.toUTF8 = some text ∧
        ofText? text = some parsed ∧ parsed.FillsIds looseDocument ∧
        ∀ path', load path' (String.fromUTF8? looseDocument.encode.render.toUTF8) =
          .ok looseDocument :=
  ⟨load_looseValue "video.json", load_fillsIds_reload (load_looseValue "video.json")⟩

end Document

end ApiTypes

import ApiTypes.Proofs.WrittenSchema

/-!
Written documents are read back, and the marks of nested schemas are all that is lost.
-/
namespace ApiTypes
open Json

namespace Reference

/-- The fields of a written reference. -/
def slots (r : Reference) : List (String × Option Value) :=
  [("$ref", some (.text r.target))]

theorem encode_eq (r : Reference) : r.encode = .record r.slots := rfl

theorem decode_encode {r : Reference} {room : Nat} (hroom : r.encode.depth ≤ room) :
    decode room r.encode = some r := by
  rw [encode_eq] at hroom ⊢
  obtain ⟨room, rfl, _⟩ := depth_record_le hroom
  have hn : (r.slots.map Prod.fst).Nodup := List.nodup_singleton _
  have hfields : (Value.record r.slots).fields? fieldNames = some (present r.slots) :=
    fields?_record hn
  have htarget : required? (present r.slots) "$ref" Value.text? = some r.target :=
    required?_present (.text r.target) hn (by simp [slots]) rfl
  simp only [decode, hfields, htarget, Option.bind_eq_bind, Option.bind_some]
  rfl

theorem numberFree_encode (r : Reference) : r.encode.NumberFree := by
  rw [encode_eq]
  refine numberFree_record fun slot hs v hv => ?_
  cases List.mem_singleton.1 hs
  cases hv
  exact .string _

end Reference

theorem referenceMember_eq (key : String) (o : Option Reference) :
    referenceMember key o = slotMember key (o.map Reference.encode) := by
  cases o <;> rfl

namespace Method

/-- The fields of a written method. -/
def slots (m : Method) : List (String × Option Value) :=
  [("id", some (.text m.id)), ("httpMethod", m.httpMethod.map .text), ("path", m.path.map .text),
    ("description", m.description.map .text), ("request", m.request.map Reference.encode),
    ("response", m.response.map Reference.encode)]

theorem encode_eq (m : Method) : m.encode = .record m.slots := by
  simp [encode, textMember_eq, referenceMember_eq, Value.record, slots]

theorem nodup_slots (m : Method) : (m.slots.map Prod.fst).Nodup := by
  have h : fieldNames.Nodup := by decide
  exact h

theorem decode_encode {m : Method} {room : Nat} (hroom : m.encode.depth ≤ room) :
    decode room m.encode = some m := by
  rw [encode_eq] at hroom ⊢
  obtain ⟨room, rfl, hdepth⟩ := depth_record_le hroom
  have hn := m.nodup_slots
  have hfields : (Value.record m.slots).fields? fieldNames = some (present m.slots) :=
    fields?_record hn
  have hid : withDefault? (present m.slots) "id" Value.text? "" = some m.id :=
    withDefault?_present (some (.text m.id)) hn (by simp [slots]) rfl
  have hhttp : optional? (present m.slots) "httpMethod" Value.text? = some m.httpMethod :=
    optional?_text hn (by simp [slots])
  have hpath : optional? (present m.slots) "path" Value.text? = some m.path :=
    optional?_text hn (by simp [slots])
  have hdescription :
      optional? (present m.slots) "description" Value.text? = some m.description :=
    optional?_text hn (by simp [slots])
  have hrequest :
      optional? (present m.slots) "request" (Reference.decode room) = some m.request := by
    refine optional?_present Reference.encode hn (by simp [slots]) (fun _ => Value.noConfusion)
      fun r hr => ?_
    exact Reference.decode_encode (hdepth "request" _ (by simp [slots, hr]))
  have hresponse :
      optional? (present m.slots) "response" (Reference.decode room) = some m.response := by
    refine optional?_present Reference.encode hn (by simp [slots]) (fun _ => Value.noConfusion)
      fun r hr => ?_
    exact Reference.decode_encode (hdepth "response" _ (by simp [slots, hr]))
  simp only [decode, hfields, hid, hhttp, hpath, hdescription, hrequest, hresponse,
    Option.bind_eq_bind, Option.bind_some]
  rfl

theorem numberFree_encode (m : Method) : m.encode.NumberFree := by
  rw [encode_eq]
  refine numberFree_record ?_
  simp only [slots, List.forall_mem_cons]
  refine ⟨?_, numberFree_of_map fun _ _ => .string _, numberFree_of_map fun _ _ => .string _,
    numberFree_of_map fun _ _ => .string _, numberFree_of_map fun r _ => r.numberFree_encode,
    numberFree_of_map fun r _ => r.numberFree_encode, ?_⟩
  · rintro v ⟨⟩
    exact .string _
  · exact fun _ h => absurd h List.not_mem_nil

end Method

/-- No table of methods or resources in the resource has a name twice. -/
inductive Resource.DistinctKeys : Resource → Prop where
  | intro {r : Resource} (methods : (Table.keys r.methods).Nodup)
      (keys : (Table.keys r.resources).Nodup) (resources : ∀ e ∈ r.resources, DistinctKeys e.2) :
      DistinctKeys r

theorem encodeResources_eq (resources : Table Resource) :
    encodeResources resources = resources.map fun e => member e.1 e.2.encode := by
  induction resources with
  | nil => rfl
  | cons e rest ih =>
    rw [encodeResources, ih]
    rfl

theorem tableMember_eq {α : Type} (key : String) (write : α → Value) (t : Table α) :
    tableMember key (t.map fun entry => member entry.1 (write entry.2)) =
      slotMember key (tableSlot write t) := by
  cases t <;> rfl

namespace Resource

/-- The fields of a written resource. -/
def slots (r : Resource) : List (String × Option Value) :=
  [("methods", tableSlot Method.encode r.methods), ("resources", tableSlot encode r.resources)]

theorem encode_eq (r : Resource) : r.encode = .record r.slots := by
  obtain ⟨methods, resources⟩ := r
  simp [encode, encodeResources_eq, tableMember_eq, Value.record, slots]

theorem nodup_slots (r : Resource) : (r.slots.map Prod.fst).Nodup := by
  have h : fieldNames.Nodup := by decide
  exact h

theorem decode_succ (room : Nat) (v : Value) :
    decode (room + 1) v = (do
      let fields ← v.fields? fieldNames
      return {
        methods := ← withDefault? fields "methods" (decodeTable room Method.decode) []
        resources := ← withDefault? fields "resources" (decodeTable room decode) [] }) := by
  cases room <;> rfl

/-- A resource is read back where there is room for it. -/
theorem decode_encode {r : Resource} (hr : r.DistinctKeys) {room : Nat}
    (hroom : r.encode.depth ≤ room) : decode room r.encode = some r := by
  induction hr generalizing room with
  | @intro r hmethodKeys hkeys _ ih =>
    rw [encode_eq] at hroom ⊢
    obtain ⟨room, rfl, hdepth⟩ := depth_record_le hroom
    have hn := r.nodup_slots
    have hfields : (Value.record r.slots).fields? fieldNames = some (present r.slots) :=
      fields?_record hn
    have hmethods :
        withDefault? (present r.slots) "methods" (decodeTable room Method.decode) [] =
          some r.methods :=
      withDefault?_table Method.encode hn (by simp [slots]) hdepth hmethodKeys
        fun k m _ => Method.decode_encode
    have hresources :
        withDefault? (present r.slots) "resources" (decodeTable room decode) [] =
          some r.resources :=
      withDefault?_table encode hn (by simp [slots]) hdepth hkeys fun k e he => ih e he
    simp only [decode_succ, hfields, hmethods, hresources, Option.bind_eq_bind, Option.bind_some]
    cases r
    rfl

theorem numberFree_encode {r : Resource} (hr : r.DistinctKeys) : r.encode.NumberFree := by
  induction hr with
  | @intro r _ _ _ ih =>
    rw [encode_eq]
    refine numberFree_record ?_
    simp only [slots, List.forall_mem_cons]
    exact ⟨numberFree_of_tableSlot fun m _ => m.2.numberFree_encode, numberFree_of_tableSlot ih,
      fun _ h => absurd h List.not_mem_nil⟩

end Resource

namespace Document

/-- No table in the document has a key twice, as no table does that is made by storing. -/
structure DistinctKeys (d : Document) : Prop where
  schemaKeys : d.schemas.keys.Nodup
  schemas : ∀ e ∈ d.schemas, e.2.DistinctKeys
  resourceKeys : d.resources.keys.Nodup
  resources : ∀ e ∈ d.resources, e.2.DistinctKeys

/-- The document without the marks of its nested schemas. -/
def unmarked (d : Document) : Document :=
  { d with schemas := d.schemas.map fun (key, s) => (key, { s with nested := false }) }

/-- The fields of a written document. -/
def slots (d : Document) : List (String × Option Value) :=
  [("name", some (.text d.name)), ("version", some (.text d.version)),
    ("title", d.title.map .text), ("description", d.description.map .text),
    ("schemas", some (.ofTable SchemaNode.encode d.schemas)),
    ("resources", some (.ofTable Resource.encode d.resources))]

theorem encode_eq (d : Document) : d.encode = .record d.slots := by
  simp [encode, encodeResources_eq, textMember_eq, Value.record, Value.ofTable, slots]

theorem nodup_slots (d : Document) : (d.slots.map Prod.fst).Nodup := by
  have h : fieldNames.Nodup := by decide
  exact h

theorem encode_unmarked (d : Document) : d.unmarked.encode = d.encode := by
  have hschemas : d.unmarked.schemas.map (fun s => member s.1 s.2.encode) =
      d.schemas.map fun s => member s.1 s.2.encode := by
    rw [unmarked, List.map_map]
    rfl
  rw [encode, encode, hschemas]
  rfl

theorem DistinctKeys.unmarked {d : Document} (hd : d.DistinctKeys) : d.unmarked.DistinctKeys where
  schemaKeys := by
    have hkeys : d.unmarked.schemas.keys = d.schemas.keys := by
      simp [Document.unmarked, Table.keys]
    rw [hkeys]
    exact hd.schemaKeys
  schemas e he := by
    obtain ⟨⟨key, s⟩, hs, rfl⟩ := List.mem_map.1 he
    obtain ⟨keys, fields, items, additional⟩ := hd.schemas _ hs
    exact ⟨keys, fields, items, additional⟩
  resourceKeys := hd.resourceKeys
  resources := hd.resources

theorem decode_encode {d : Document} (hd : d.DistinctKeys)
    (hmarks : ∀ e ∈ d.schemas, e.2.nested = false) {room : Nat} (hroom : d.encode.depth ≤ room) :
    decode room d.encode = some d := by
  rw [encode_eq] at hroom ⊢
  obtain ⟨room, rfl, hdepth⟩ := depth_record_le hroom
  have hn := d.nodup_slots
  have hfields : (Value.record d.slots).fields? fieldNames = some (present d.slots) :=
    fields?_record hn
  have hname : withDefault? (present d.slots) "name" Value.text? "" = some d.name :=
    withDefault?_present (some (.text d.name)) hn (by simp [slots]) rfl
  have hversion : withDefault? (present d.slots) "version" Value.text? "" = some d.version :=
    withDefault?_present (some (.text d.version)) hn (by simp [slots]) rfl
  have htitle : optional? (present d.slots) "title" Value.text? = some d.title :=
    optional?_text hn (by simp [slots])
  have hdescription :
      optional? (present d.slots) "description" Value.text? = some d.description :=
    optional?_text hn (by simp [slots])
  have hschemas :
      withDefault? (present d.slots) "schemas" (decodeTable room SchemaNode.decode) [] =
        some d.schemas := by
    refine withDefault?_present (some (.ofTable SchemaNode.encode d.schemas)) hn
      (by simp [slots]) ?_
    refine decodeTable_ofTable hd.schemaKeys (hdepth "schemas" _ (by simp [slots])) ?_
    intro k e he hk
    rw [SchemaNode.decode_encode (hd.schemas e he) hk, ← hmarks e he]
  have hresources :
      withDefault? (present d.slots) "resources" (decodeTable room Resource.decode) [] =
        some d.resources := by
    refine withDefault?_present (some (.ofTable Resource.encode d.resources)) hn
      (by simp [slots]) ?_
    exact decodeTable_ofTable hd.resourceKeys (hdepth "resources" _ (by simp [slots]))
      fun k e he => Resource.decode_encode (hd.resources e he)
  simp only [decode, hfields, hname, hversion, htitle, hdescription, hschemas, hresources,
    Option.bind_eq_bind, Option.bind_some]
  rfl

theorem numberFree_encode {d : Document} (hd : d.DistinctKeys) : d.encode.NumberFree := by
  rw [encode_eq]
  refine numberFree_record ?_
  simp only [slots, List.forall_mem_cons]
  refine ⟨?_, ?_, numberFree_of_map fun _ _ => .string _, numberFree_of_map fun _ _ => .string _,
    ?_, ?_, fun _ h => absurd h List.not_mem_nil⟩
  · rintro v ⟨⟩
    exact .string _
  · rintro v ⟨⟩
    exact .string _
  · rintro v ⟨⟩
    exact numberFree_ofTable fun e he => SchemaNode.numberFree_encode (hd.schemas e he)
  · rintro v ⟨⟩
    exact numberFree_ofTable fun e he => Resource.numberFree_encode (hd.resources e he)

/-- A written document is read back without the marks of its nested schemas, if it does not nest
too deep. -/
theorem ofText?_render_encode {d : Document} (hd : d.DistinctKeys)
    (hdepth : d.encode.depth ≤ maxDepth) : ofText? d.encode.render = some d.unmarked := by
  have hread : Value.ofText? d.encode.render = some d.encode :=
    Value.ofText?_render (numberFree_encode hd)
  have hmarks : ∀ e ∈ d.unmarked.schemas, e.2.nested = false := by
    intro e he
    obtain ⟨_, _, rfl⟩ := List.mem_map.1 he
    rfl
  rw [← encode_unmarked] at hdepth
  rw [ofText?, hread, Option.bind_eq_bind, Option.bind_some, ← encode_unmarked]
  exact decode_encode hd.unmarked hmarks hdepth

/-- A document with a marked schema that has a property without fields, one with an empty field
list, and a name that needs escapes. -/
def markedDocument : Document where
  name := "video"
  schemas := [("Video", { id := "Video", kind := some .object, nested := true,
                          properties := [("a\"\x01", .of .object), ("size", .ofFields [])] })]
  resources := [("videos", ⟨[("list", { id := "video.videos.list" })], []⟩)]

theorem distinctKeys_of (kind : JsonType) : (Property.of kind).DistinctKeys :=
  .intro nofun nofun nofun nofun

theorem distinctKeys_markedDocument : markedDocument.DistinctKeys where
  schemaKeys := by decide
  schemas := by
    simp only [markedDocument, List.forall_mem_singleton]
    refine ⟨by decide, ?_, nofun, nofun⟩
    simp only [List.forall_mem_cons]
    refine ⟨distinctKeys_of .object, .intro nofun nofun ?_ ?_, nofun⟩
    · rintro _ ⟨⟩
      exact .nil
    · rintro _ ⟨⟩
      exact nofun
  resourceKeys := by decide
  resources := by
    simp only [markedDocument, List.forall_mem_singleton]
    exact .intro (by decide) .nil nofun

theorem ofText?_render_encode_marked :
    markedDocument.encode.depth ≤ maxDepth ∧
      ofText? markedDocument.encode.render = some markedDocument.unmarked := by
  have hdepth : markedDocument.encode.depth ≤ maxDepth := by decide
  exact ⟨hdepth, ofText?_render_encode distinctKeys_markedDocument hdepth⟩

end Document

end ApiTypes

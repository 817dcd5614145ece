import ApiTypes.Document.Decode
import ApiTypes.Document.Encode
import ApiTypes.Proofs.WrittenRecord

/-!
Written properties and schemas are read back. Each leaves out exactly the fields whose defaults its
reader restores, so only the mark of a nested schema is lost.
-/
namespace ApiTypes
open Json

/-- No field list in the property has a name twice. -/
inductive Property.DistinctKeys : Property → Prop where
  | intro {p : Property} (items : ∀ q, p.items = some q → DistinctKeys q)
      (additional : ∀ q, p.additional = some q → DistinctKeys q)
      (keys : ∀ fields, p.properties = some fields → (Table.keys fields).Nodup)
      (fields : ∀ fields, p.properties = some fields → ∀ f ∈ fields, DistinctKeys f.2) :
      DistinctKeys p

theorem textMember_eq (key : String) (o : Option String) :
    textMember key o = slotMember key (o.map .text) := by
  cases o <;> rfl

theorem kindMember_eq (o : Option JsonType) :
    kindMember o = slotMember "type" (o.map JsonType.encode) := by
  cases o <;> rfl

theorem propertyMember_eq (key : String) (o : Option Property) :
    propertyMember key o = slotMember key (o.map Property.encode) := by
  cases o <;> rfl

theorem encodeFields_eq (fields : Table Property) :
    encodeFields fields = fields.map fun f => member f.1 f.2.encode := by
  induction fields with
  | nil => rfl
  | cons f rest ih =>
    rw [encodeFields, ih]
    rfl

theorem JsonType.decode_encode (room : Nat) (t : JsonType) : decode room t.encode = some t :=
  ofName?_name t

/-- A table without repeated names is read back where there is room for it. -/
theorem decodeTable_ofTable {α : Type} {read : Nat → Value → Option α} {write : α → Value}
    {t : Table α} {room : Nat} (hn : t.keys.Nodup) (hroom : (Value.ofTable write t).depth ≤ room)
    (hread : ∀ k, ∀ entry ∈ t, (write entry.2).depth ≤ k → read k (write entry.2) = some entry.2) :
    decodeTable room read (Value.ofTable write t) = some t := by
  cases room with
  | zero =>
    rw [Value.ofTable, Value.depth] at hroom
    omega
  | succ room =>
    refine table?_ofTable hn fun entry he => hread room entry he ?_
    have := depth_lt_ofTable write he
    omega

theorem withDefault?_table {α : Type} {read : Nat → Value → Option α} (write : α → Value)
    {slots : List (String × Option Value)} {name : String} {t : Table α} {room : Nat}
    (hn : (slots.map Prod.fst).Nodup) (h : (name, tableSlot write t) ∈ slots)
    (hroom : ∀ name v, (name, some v) ∈ slots → v.depth ≤ room) (ht : t.keys.Nodup)
    (hread : ∀ k, ∀ entry ∈ t, (write entry.2).depth ≤ k → read k (write entry.2) = some entry.2) :
    withDefault? (present slots) name (decodeTable room read) [] = some t := by
  refine withDefault?_present _ hn h ?_
  rw [tableSlot] at h ⊢
  cases t with
  | nil => rfl
  | cons entry rest => exact decodeTable_ofTable ht (hroom _ _ h) hread

namespace Property

/-- The fields of a written property. -/
def slots (p : Property) : List (String × Option Value) :=
  [("type", p.kind.map JsonType.encode), ("$ref", p.reference.map .text),
    ("description", p.description.map .text), ("format", p.format.map .text),
    ("required", if p.required then some (.bool true) else none),
    ("items", p.items.map encode), ("additionalProperties", p.additional.map encode),
    ("properties", p.properties.map (Value.ofTable encode))]

theorem encode_eq (p : Property) : p.encode = .record p.slots := by
  obtain ⟨kind, reference, description, format, required, items, additional, properties⟩ := p
  have hrequired : (if required then [member "required" (.bool true)] else []) =
      slotMember "required" (if required then some (.bool true) else none) := by
    cases required <;> rfl
  have hproperties : fieldsMember properties =
      slotMember "properties" (properties.map (Value.ofTable encode)) := by
    cases properties with
    | none => rfl
    | some fields => simp [fieldsMember, encodeFields_eq, Value.ofTable]
  simp [encode, kindMember_eq, textMember_eq, propertyMember_eq, hrequired, hproperties,
    Value.record, slots]

theorem encode_ne_null (p : Property) : p.encode ≠ .null := by
  rw [encode_eq]
  exact Value.noConfusion

theorem nodup_slots (p : Property) : (p.slots.map Prod.fst).Nodup := by
  have h : fieldNames.Nodup := by decide
  exact h

theorem decode_succ (room : Nat) (v : Value) :
    decode (room + 1) v = (do
      let fields ← v.fields? fieldNames
      return {
        kind := ← optional? fields "type" (JsonType.decode room)
        reference := ← optional? fields "$ref" Value.text?
        description := ← optional? fields "description" Value.text?
        format := ← optional? fields "format" Value.text?
        required := ← withDefault? fields "required" Value.bool? false
        items := ← optional? fields "items" (decode room)
        additional := ← optional? fields "additionalProperties" (decode room)
        properties := ← optional? fields "properties" (decodeTable room decode) }) := by
  cases room <;> rfl

/-- A property is read back where there is room for it. -/
theorem decode_encode {p : Property} (hp : p.DistinctKeys) {room : Nat}
    (hroom : p.encode.depth ≤ room) : decode room p.encode = some p := by
  induction hp generalizing room with
  | @intro p _ _ hkeys _ ihItems ihAdditional ihFields =>
    rw [encode_eq] at hroom ⊢
    -- What the object holds fits into `room`, so each inner reader has enough of it.
    obtain ⟨room, rfl, hdepth⟩ := depth_record_le hroom
    have hn := p.nodup_slots
    have hfields : (Value.record p.slots).fields? fieldNames = some (present p.slots) :=
      fields?_record hn
    have hkind : optional? (present p.slots) "type" (JsonType.decode room) = some p.kind :=
      optional?_present JsonType.encode hn (by simp [slots]) (fun _ => Value.noConfusion)
        fun t _ => JsonType.decode_encode room t
    have hreference : optional? (present p.slots) "$ref" Value.text? = some p.reference :=
      optional?_text hn (by simp [slots])
    have hdescription :
        optional? (present p.slots) "description" Value.text? = some p.description :=
      optional?_text hn (by simp [slots])
    have hformat : optional? (present p.slots) "format" Value.text? = some p.format :=
      optional?_text hn (by simp [slots])
    have hrequired :
        withDefault? (present p.slots) "required" Value.bool? false = some p.required :=
      withDefault?_present (if p.required then some (.bool true) else none) hn (by simp [slots])
        (by cases p.required <;> rfl)
    have hitems : optional? (present p.slots) "items" (decode room) = some p.items := by
      refine optional?_present encode hn (by simp [slots]) encode_ne_null fun q hq => ?_
      exact ihItems q hq (hdepth "items" _ (by simp [slots, hq]))
    have hadditional :
        optional? (present p.slots) "additionalProperties" (decode room) = some p.additional := by
      refine optional?_present encode hn (by simp [slots]) encode_ne_null fun q hq => ?_
      exact ihAdditional q hq (hdepth "additionalProperties" _ (by simp [slots, hq]))
    have hproperties :
        optional? (present p.slots) "properties" (decodeTable room decode) =
          some p.properties := by
      refine optional?_present (Value.ofTable encode) hn (by simp [slots])
        (fun _ => Value.noConfusion) fun fields hq => ?_
      exact decodeTable_ofTable (hkeys fields hq) (hdepth "properties" _ (by simp [slots, hq]))
        fun k f hf => ihFields fields hq f hf
    simp only [decode_succ, hfields, hkind, hreference, hdescription, hformat, hrequired, hitems,
      hadditional, hproperties, Option.bind_eq_bind, Option.bind_some]
    cases p
    rfl

theorem numberFree_encode {p : Property} (hp : p.DistinctKeys) : p.encode.NumberFree := by
  induction hp with
  | @intro p _ _ _ _ ihItems ihAdditional ihFields =>
    rw [encode_eq]
    refine numberFree_record ?_
    simp only [slots, List.forall_mem_cons]
    refine ⟨numberFree_of_map fun _ _ => .string _, numberFree_of_map fun _ _ => .string _,
      numberFree_of_map fun _ _ => .string _, numberFree_of_map fun _ _ => .string _, ?_,
      numberFree_of_map ihItems, numberFree_of_map ihAdditional,
      numberFree_of_map fun fields hq => numberFree_ofTable (ihFields fields hq), ?_⟩
    · intro v hv
      split at hv
      · cases hv
        exact .bool true
      · cases hv
    · exact fun _ h => absurd h List.not_mem_nil

end Property

namespace SchemaNode

/-- No field list in the schema has a name twice. -/
structure DistinctKeys (s : SchemaNode) : Prop where
  keys : s.properties.keys.Nodup
  fields : ∀ f ∈ s.properties, f.2.DistinctKeys
  items : ∀ q, s.items = some q → q.DistinctKeys
  additional : ∀ q, s.additional = some q → q.DistinctKeys

/-- The fields of a written schema. -/
def slots (s : SchemaNode) : List (String × Option Value) :=
  [("id", some (.text s.id)), ("type", s.kind.map JsonType.encode),
    ("description", s.description.map .text), ("format", s.format.map .text),
    ("properties", tableSlot Property.encode s.properties),
    ("items", s.items.map Property.encode),
    ("additionalProperties", s.additional.map Property.encode)]

theorem encode_eq (s : SchemaNode) : s.encode = .record s.slots := by
  have hproperties : (if s.properties.isEmpty then []
      else [member "properties" (.object (encodeFields s.properties))]) =
        slotMember "properties" (tableSlot Property.encode s.properties) := by
    rw [encodeFields_eq, tableSlot]
    cases s.properties.isEmpty <;> rfl
  rw [encode, hproperties]
  simp [kindMember_eq, textMember_eq, propertyMember_eq, Value.record, slots]

theorem nodup_slots (s : SchemaNode) : (s.slots.map Prod.fst).Nodup := by
  have h : fieldNames.Nodup := by decide
  exact h

/-- A schema is read back where there is room for it, but its mark is lost. -/
theorem decode_encode {s : SchemaNode} (hs : s.DistinctKeys) {room : Nat}
    (hroom : s.encode.depth ≤ room) : decode room s.encode = some { s with nested := false } := by
  rw [encode_eq] at hroom ⊢
  obtain ⟨room, rfl, hdepth⟩ := depth_record_le hroom
  have hn := s.nodup_slots
  have hfields : (Value.record s.slots).fields? fieldNames = some (present s.slots) :=
    fields?_record hn
  have hid : withDefault? (present s.slots) "id" Value.text? "" = some s.id :=
    withDefault?_present (some (.text s.id)) hn (by simp [slots]) rfl
  have hkind : optional? (present s.slots) "type" (JsonType.decode room) = some s.kind :=
    optional?_present JsonType.encode hn (by simp [slots]) (fun _ => Value.noConfusion)
      fun t _ => JsonType.decode_encode room t
  have hdescription :
      optional? (present s.slots) "description" Value.text? = some s.description :=
    optional?_text hn (by simp [slots])
  have hformat : optional? (present s.slots) "format" Value.text? = some s.format :=
    optional?_text hn (by simp [slots])
  have hproperties :
      withDefault? (present s.slots) "properties" (decodeTable room Property.decode) [] =
        some s.properties :=
    withDefault?_table Property.encode hn (by simp [slots]) hdepth hs.keys
      fun k f hf => Property.decode_encode (hs.fields f hf)
  have hitems :
      optional? (present s.slots) "items" (Property.decode room) = some s.items := by
    refine optional?_present Property.encode hn (by simp [slots]) Property.encode_ne_null
      fun q hq => ?_
    exact Property.decode_encode (hs.items q hq) (hdepth "items" _ (by simp [slots, hq]))
  have hadditional :
      optional? (present s.slots) "additionalProperties" (Property.decode room) =
        some s.additional := by
    refine optional?_present Property.encode hn (by simp [slots]) Property.encode_ne_null
      fun q hq => ?_
    exact Property.decode_encode (hs.additional q hq)
      (hdepth "additionalProperties" _ (by simp [slots, hq]))
  simp only [decode, hfields, hid, hkind, hdescription, hformat, hproperties, hitems,
    hadditional, Option.bind_eq_bind, Option.bind_some]
  rfl

theorem numberFree_encode {s : SchemaNode} (hs : s.DistinctKeys) : s.encode.NumberFree := by
  rw [encode_eq]
  refine numberFree_record ?_
  simp only [slots, List.forall_mem_cons]
  refine ⟨?_, numberFree_of_map fun _ _ => .string _, numberFree_of_map fun _ _ => .string _,
    numberFree_of_map fun _ _ => .string _,
    numberFree_of_tableSlot fun f hf => Property.numberFree_encode (hs.fields f hf),
    numberFree_of_map fun q hq => Property.numberFree_encode (hs.items q hq),
    numberFree_of_map fun q hq => Property.numberFree_encode (hs.additional q hq), ?_⟩
  · rintro v ⟨⟩
    exact .string _
  · exact fun _ h => absurd h List.not_mem_nil

end SchemaNode

end ApiTypes

import ApiTypes.Json.Record
import ApiTypes.Proofs.WrittenValue
import Mathlib.Data.List.Nodup

/-!
Records written as objects that leave absent fields out. A reader finds the present fields under
their names, and takes the defaults of the others.
-/
namespace ApiTypes.Json

/-- The fields of a record that are present. -/
def present (slots : List (String × Option Value)) : Table Value :=
  slots.filterMap fun slot => slot.2.map (slot.1, ·)

/-- The members with the given names and values. -/
def members (fields : Table Value) : List Member :=
  fields.map fun f => member f.1 f.2

/-- A record as an object with the fields that are present, in order. -/
def Value.record (slots : List (String × Option Value)) : Value :=
  .object (members (present slots))

/-- The member for one field, if it is present. -/
def slotMember (name : String) (slot : Option Value) : List Member :=
  slot.toList.map (member name)

@[simp] theorem slotMember_some (name : String) (v : Value) :
    slotMember name (some v) = [member name v] := rfl

@[simp] theorem members_present_nil : members (present []) = [] := rfl

@[simp] theorem members_present_cons (name : String) (slot : Option Value)
    (rest : List (String × Option Value)) :
    members (present ((name, slot) :: rest)) = slotMember name slot ++ members (present rest) := by
  cases slot <;> rfl

mutual

/-- How deep the arrays and objects of a value nest. -/
def Value.depth : Value → Nat
  | .array items => itemsDepth items + 1
  | .object members => membersDepth members + 1
  | _ => 0

/-- The greatest depth among values. -/
def itemsDepth : List Value → Nat
  | [] => 0
  | v :: rest => max v.depth (itemsDepth rest)

/-- The greatest depth among the values of members. -/
def membersDepth : List (Option String × Value) → Nat
  | [] => 0
  | (_, v) :: rest => max v.depth (membersDepth rest)

end

theorem depth_le_of_mem {ms : List Member} {m : Member} (h : m ∈ ms) :
    m.2.depth ≤ membersDepth ms := by
  induction ms with
  | nil => cases h
  | cons n rest ih =>
    rw [membersDepth]
    rcases List.mem_cons.1 h with rfl | h
    · omega
    · have := ih h
      omega

theorem depth_lt_of_mem {ms : List Member} {m : Member} (h : m ∈ ms) :
    m.2.depth < (Value.object ms).depth := by
  have := depth_le_of_mem h
  rw [Value.depth]
  omega

theorem named?_members (fields : Table Value) : named? (members fields) = some fields := by
  induction fields with
  | nil => rfl
  | cons f rest ih =>
    rw [named?] at ih ⊢
    rw [members, List.map_cons, List.mapM_cons, ← members, ih]
    rfl

section slots
variable {slots : List (String × Option Value)} {name : String} {slot : Option Value}

theorem mem_present {f : String × Value} : f ∈ present slots ↔ (f.1, some f.2) ∈ slots := by
  obtain ⟨name, v⟩ := f
  simp only [present, List.mem_filterMap, Option.map_eq_some_iff, Prod.mk.injEq]
  constructor
  · rintro ⟨⟨name', slot⟩, hslot, v', hv, hname, rfl⟩
    obtain rfl : name' = name := hname
    obtain rfl : slot = some v' := hv
    exact hslot
  · intro h
    exact ⟨_, h, v, rfl, rfl, rfl⟩

theorem keys_present_sublist (slots : List (String × Option Value)) :
    ((present slots).map Prod.fst).Sublist (slots.map Prod.fst) := by
  induction slots with
  | nil => exact .slnil
  | cons slot rest ih =>
    obtain ⟨name, _ | v⟩ := slot
    · exact ih.cons _
    · exact ih.cons_cons _

theorem get?_present (hn : (slots.map Prod.fst).Nodup) (h : (name, slot) ∈ slots) :
    Table.get? (present slots) name = slot := by
  cases slot with
  | some v =>
    exact Table.lookup_of_mem (hn.sublist (keys_present_sublist slots)) (mem_present.2 h)
  | none =>
    rw [Table.get?, List.lookup_eq_none_iff]
    intro f hf
    rw [bne_iff_ne]
    rintro rfl
    have hsome := Table.lookup_of_mem hn (mem_present.1 hf)
    rw [Table.lookup_of_mem hn h] at hsome
    cases hsome

/-- The reader of a record finds exactly the fields that are present. -/
theorem fields?_record (hn : (slots.map Prod.fst).Nodup) :
    (Value.record slots).fields? (slots.map Prod.fst) = some (present slots) := by
  have hkeys := keys_present_sublist slots
  have hknown : (present slots).filter ((slots.map Prod.fst).contains ·.1) = present slots := by
    rw [List.filter_eq_self]
    intro f hf
    rw [List.contains_eq_mem, decide_eq_true_eq]
    exact hkeys.subset (List.mem_map_of_mem hf)
  simp only [Value.fields?, Value.record, named?_members, Option.bind_eq_bind, Option.bind_some,
    hknown, if_pos (hn.sublist hkeys)]

theorem depth_lt_of_mem_slots {v : Value} (h : (name, some v) ∈ slots) :
    v.depth < (Value.record slots).depth := by
  have hmem : member name v ∈ members (present slots) :=
    List.mem_map.2 ⟨(name, v), mem_present.2 h, rfl⟩
  exact depth_lt_of_mem hmem

/-- The values in a record that fits into some room fit into what one object leaves of it. -/
theorem depth_record_le {room : Nat} (h : (Value.record slots).depth ≤ room) :
    ∃ k, room = k + 1 ∧ ∀ name v, (name, some v) ∈ slots → v.depth ≤ k := by
  cases room with
  | zero =>
    rw [Value.record, Value.depth] at h
    omega
  | succ k =>
    refine ⟨k, rfl, fun name v hv => ?_⟩
    have := depth_lt_of_mem_slots hv
    omega

theorem numberFree_record (h : ∀ slot ∈ slots, ∀ v, slot.2 = some v → v.NumberFree) :
    (Value.record slots).NumberFree := by
  refine .object fun m hm => ?_
  obtain ⟨f, hf, rfl⟩ := List.mem_map.1 hm
  exact h _ (mem_present.1 hf) f.2 rfl

theorem numberFree_of_map {α : Type} {write : α → Value} {o : Option α}
    (h : ∀ a, o = some a → (write a).NumberFree) (v : Value) (hv : o.map write = some v) :
    v.NumberFree := by
  obtain ⟨a, ha, rfl⟩ := Option.map_eq_some_iff.1 hv
  exact h a ha

section readers
variable {α : Type} {read : Value → Option α}

/-- A field that may be absent is read back, unless what is written is null. -/
theorem optional?_present (write : α → Value) {o : Option α} (hn : (slots.map Prod.fst).Nodup)
    (h : (name, o.map write) ∈ slots) (hnull : ∀ a, write a ≠ .null)
    (hread : ∀ a, o = some a → read (write a) = some a) :
    optional? (present slots) name read = some o := by
  rw [optional?, get?_present hn h]
  cases o with
  | none => rfl
  | some a => simp [hnull, hread]

theorem optional?_text {o : Option String} (hn : (slots.map Prod.fst).Nodup)
    (h : (name, o.map Value.text) ∈ slots) :
    optional? (present slots) name Value.text? = some o :=
  optional?_present _ hn h (fun _ => Value.noConfusion) fun _ _ => rfl

theorem withDefault?_present (slot : Option Value) {default a : α}
    (hn : (slots.map Prod.fst).Nodup) (h : (name, slot) ∈ slots)
    (hread : slot.elim (default = a) (read · = some a)) :
    withDefault? (present slots) name read default = some a := by
  rw [withDefault?, get?_present hn h]
  cases slot with
  | none => exact congrArg some hread
  | some v => exact hread

theorem required?_present (v : Value) {a : α} (hn : (slots.map Prod.fst).Nodup)
    (h : (name, some v) ∈ slots) (hread : read v = some a) :
    required? (present slots) name read = some a := by
  rw [required?, get?_present hn h]
  exact hread

end readers

end slots

section tables
variable {α : Type} {read : Value → Option α} {write : α → Value} {t : Table α}

/-- A table as an object. -/
def Value.ofTable (write : α → Value) (t : Table α) : Value :=
  .object (t.map fun entry => member entry.1 (write entry.2))

/-- A table as a field that is absent when the table is empty. -/
def tableSlot (write : α → Value) (t : Table α) : Option Value :=
  if t.isEmpty then none else some (.ofTable write t)

theorem mapM_entries (hread : ∀ entry ∈ t, read (write entry.2) = some entry.2) :
    (t.map fun entry => (entry.1, write entry.2)).mapM
      (fun m => (read m.2).map (m.1, ·)) = some t := by
  induction t with
  | nil => rfl
  | cons entry rest ih =>
    obtain ⟨hentry, hrest⟩ := List.forall_mem_cons.1 hread
    rw [List.map_cons, List.mapM_cons, ih hrest, hentry]
    rfl

/-- A table without repeated names is read back from its object. -/
theorem table?_ofTable (hn : t.keys.Nodup)
    (hread : ∀ entry ∈ t, read (write entry.2) = some entry.2) :
    (Value.ofTable write t).table? read = some t := by
  have hmembers : (t.map fun entry => member entry.1 (write entry.2)) =
      members (t.map fun entry => (entry.1, write entry.2)) := by
    simp [members]
  simp only [Value.ofTable, hmembers, Value.table?, named?_members, Option.bind_eq_bind,
    Option.bind_some, mapM_entries hread, Table.ofPairs_of_nodup hn]
  rfl

theorem depth_lt_ofTable (write : α → Value) {entry : String × α} (h : entry ∈ t) :
    (write entry.2).depth < (Value.ofTable write t).depth := by
  have hmem : member entry.1 (write entry.2) ∈ t.map fun entry => member entry.1 (write entry.2) :=
    List.mem_map.2 ⟨entry, h, rfl⟩
  exact depth_lt_of_mem hmem

theorem numberFree_ofTable (h : ∀ entry ∈ t, (write entry.2).NumberFree) :
    (Value.ofTable write t).NumberFree := by
  refine .object fun m hm => ?_
  obtain ⟨entry, hentry, rfl⟩ := List.mem_map.1 hm
  exact h entry hentry

theorem numberFree_of_tableSlot (h : ∀ entry ∈ t, (write entry.2).NumberFree) (v : Value)
    (hv : tableSlot write t = some v) : v.NumberFree := by
  rw [tableSlot] at hv
  split at hv
  · cases hv
  · cases hv
    exact numberFree_ofTable h

end tables

end ApiTypes.Json

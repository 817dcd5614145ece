import ApiTypes.Json.Render
import ApiTypes.Proofs.Outcome
import ApiTypes.Run

/-! What holds of every document that is read from a text, whatever the text. -/
namespace ApiTypes
open Json

section tables
variable {α β : Type} {t : Table α} {read : Value → Option α} {v : Value}

theorem exists_of_mem_mapM {f : α → Option β} {as : List α} {bs : List β}
    (h : as.mapM f = some bs) {b : β} (hb : b ∈ bs) : ∃ a ∈ as, f a = some b := by
  induction as generalizing bs with
  | nil =>
    cases h
    cases hb
  | cons a rest ih =>
    rw [List.mapM_cons] at h
    obtain ⟨c, hc, h⟩ := Option.bind_eq_some_iff.1 h
    obtain ⟨cs, hcs, h⟩ := Option.bind_eq_some_iff.1 h
    cases h
    rcases List.mem_cons.1 hb with rfl | hb
    · exact ⟨a, List.mem_cons_self, hc⟩
    · obtain ⟨a', ha', hb'⟩ := ih hcs hb
      exact ⟨a', List.mem_cons_of_mem _ ha', hb'⟩

/-- Each value of a table has been read from some value in the text. -/
theorem exists_read_of_mem_table? (h : v.table? read = some t) {p : String × α} (hp : p ∈ t) :
    ∃ w, read w = some p.2 := by
  unfold Value.table? at h
  split at h
  · obtain ⟨members, _, h⟩ := Option.bind_eq_some_iff.1 h
    obtain ⟨entries, hentries, h⟩ := Option.bind_eq_some_iff.1 h
    cases h
    obtain ⟨q, _, hq⟩ := exists_of_mem_mapM hentries (Table.mem_of_mem_ofPairs hp)
    obtain ⟨a, ha, rfl⟩ := Option.map_eq_some_iff.1 hq
    exact ⟨q.2, ha⟩
  · cases h

end tables

/-- No schema that is read has the mark of an anonymous object. -/
theorem SchemaNode.nested_of_decode {room : Nat} {v : Value} {s : SchemaNode}
    (h : SchemaNode.decode room v = some s) : s.nested = false := by
  cases room with
  | zero => cases h
  | succ room =>
    simp only [SchemaNode.decode, Option.bind_eq_bind, Option.bind_eq_some_iff, Option.pure_def,
      Option.some.injEq] at h
    obtain ⟨_, _, _, _, _, _, _, _, _, _, _, _, _, _, _, _, rfl⟩ := h
    rfl

namespace Document
variable {d : Document} {s : SchemaNode}

theorem exists_decode_of_mem_schemas {room : Nat} {v : Value} (h : decode room v = some d)
    {entry : String × SchemaNode} (hentry : entry ∈ d.schemas) :
    ∃ room w, SchemaNode.decode room w = some entry.2 := by
  cases room with
  | zero => cases h
  | succ room =>
    simp only [decode, Option.bind_eq_bind, Option.bind_eq_some_iff, Option.pure_def,
      Option.some.injEq] at h
    obtain ⟨fields, _, _, _, _, _, _, _, _, _, schemas, hschemas, _, _, rfl⟩ := h
    unfold withDefault? at hschemas
    split at hschemas
    · unfold decodeTable at hschemas
      split at hschemas
      · cases hschemas
      · obtain ⟨w, hw⟩ := exists_read_of_mem_table? hschemas hentry
        exact ⟨_, w, hw⟩
    · cases hschemas
      cases hentry

/-- What is loaded from a written value depends on the characters it was written with. -/
theorem load_render (path : String) (v : Value) :
    load path (some v.render) =
      match Token.ofText? v.write >>= Value.ofTokens? >>= decode maxDepth with
      | none => Outcome.fail .notADocument
      | some d => .ok d.nameSchemas := by
  have hchars : v.render.toList = v.write := String.toList_ofList
  exact hchars ▸ rfl

/-- No schema in the catalog of a loaded document has the mark of an anonymous object. -/
theorem nested_of_load {path : String} {text : Option String} (h : load path text = .ok d)
    (hs : s ∈ d.schemas.values) : s.nested = false := by
  unfold load at h
  split at h
  · cases h
  next text =>
    split at h
    · cases h
    next d₀ hd₀ =>
      cases h
      obtain ⟨v, _, hv⟩ := Option.bind_eq_some_iff.1 hd₀
      obtain ⟨entry, hentry, rfl⟩ := List.mem_map.1 hs
      obtain ⟨_, hs₀, rfl⟩ := List.mem_map.1 hentry
      obtain ⟨_, _, hw⟩ := exists_decode_of_mem_schemas hv hs₀
      have hnested := SchemaNode.nested_of_decode hw
      dsimp only
      split
      · exact hnested
      · exact hnested

end Document

end ApiTypes

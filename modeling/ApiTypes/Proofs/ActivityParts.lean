import ApiTypes.Activity.Name
import Mathlib.Data.List.Basic

/-!
Which texts are activity names. A text is cut at its first dot and at its last one, and searched for
empty parts on its own; what passes are exactly the texts of three parts or more, none of them
empty, and each comes apart in the only way in which it can be put together.
-/
namespace ApiTypes.ActivityName
open Text

/-- A single part of a name. -/
structure IsPart (part : String) : Prop where
  ne_empty : part ≠ ""
  no_dot : '.' ∉ part.toList

/-- The API and the method are single parts, and the resource is made of one part or more. -/
structure IsWellFormed (a : ActivityName) : Prop where
  api : IsPart a.api
  resource : ∃ parts, parts ≠ [] ∧ (∀ p ∈ parts, IsPart p) ∧ a.resource = ".".intercalate parts
  method : IsPart a.method

/-- The full name. -/
def text (a : ActivityName) : String :=
  a.api ++ "." ++ a.resource ++ "." ++ a.method

variable {a : ActivityName} {s : String}

theorem toList_text (a : ActivityName) :
    a.text.toList = a.api.toList ++ '.' :: (a.resource.toList ++ '.' :: a.method.toList) := by
  simp [text]

theorem split_text (hapi : '.' ∉ a.api.toList) (hmethod : '.' ∉ a.method.toList) :
    split '.' a.text = a.api :: (split '.' a.resource ++ [a.method]) := by
  rw [text, split_append_mark rfl, split_append_mark rfl, split_of_not_mem hapi,
    split_of_not_mem hmethod]
  rfl

/-- The two cuts find the full name of which the outer parts have no dots. -/
theorem ofText?_eq_some_iff :
    ofText? s = some a ↔
      (s = a.text ∧ '.' ∉ a.api.toList ∧ '.' ∉ a.method.toList) ∧ "" ∉ split '.' s := by
  have hfull : (split '.' s).any String.isEmpty = false ↔ "" ∉ split '.' s := by
    simpa using List.forall_mem_ne'
  rw [← hfull, ← String.toList_inj, toList_text]
  simp only [ofText?, Option.bind_eq_bind, Option.bind_eq_some_iff, Prod.exists,
    cutFirst?_eq_some_iff, cutLast?_eq_some_iff]
  constructor
  · rintro ⟨api, _, ⟨hs, hapi⟩, resource, method, ⟨rfl, hmethod⟩, h⟩
    split at h
    · cases h
    · next hany =>
      cases h
      rw [Bool.not_eq_true] at hany
      simp only [String.toList_ofList]
      exact ⟨⟨hs, hapi, hmethod⟩, hany⟩
  · rintro ⟨⟨hs, hapi, hmethod⟩, hany⟩
    refine ⟨_, _, ⟨hs, hapi⟩, _, _, ⟨rfl, hmethod⟩, ?_⟩
    simp only [hany, Bool.false_eq_true, if_false, String.ofList_toList]

theorem isWellFormed_iff :
    a.IsWellFormed ↔
      ('.' ∉ a.api.toList ∧ '.' ∉ a.method.toList) ∧ "" ∉ split '.' a.text := by
  constructor
  · rintro ⟨api, ⟨parts, hne, hparts, hresource⟩, method⟩
    have hsplit : split '.' a.resource = parts := by
      rw [hresource, split_intercalate rfl hne fun p hp => (hparts p hp).no_dot]
    refine ⟨⟨api.no_dot, method.no_dot⟩, fun hempty => ?_⟩
    rw [split_text api.no_dot method.no_dot, hsplit, List.mem_cons, List.mem_append,
      List.mem_singleton] at hempty
    rcases hempty with hempty | hempty | hempty
    · exact api.ne_empty hempty.symm
    · exact (hparts _ hempty).ne_empty rfl
    · exact method.ne_empty hempty.symm
  · rintro ⟨⟨hapi, hmethod⟩, hfull⟩
    rw [split_text hapi hmethod, List.mem_cons, List.mem_append, List.mem_singleton, not_or,
      not_or] at hfull
    obtain ⟨hfirst, hmiddle, hlast⟩ := hfull
    constructor
    case api => exact ⟨Ne.symm hfirst, hapi⟩
    case method => exact ⟨Ne.symm hlast, hmethod⟩
    case resource =>
      have hresource : ".".intercalate (split '.' a.resource) = a.resource :=
        intercalate_split rfl _
      refine ⟨split '.' a.resource, split_ne_nil '.' _, fun p hp => ?_, hresource.symm⟩
      exact ⟨fun hp' => hmiddle (hp' ▸ hp), not_mem_of_mem_split hp⟩

/-- A text of three parts or more can be cut at its first dot and at another one, its last. -/
theorem exists_text_of_split (h : 3 ≤ (split '.' s).length) :
    ∃ a : ActivityName, s = a.text ∧ '.' ∉ a.api.toList ∧ '.' ∉ a.method.toList := by
  have hdots : ∀ p ∈ split '.' s, '.' ∉ p.toList := fun _ => not_mem_of_mem_split
  have hs : ".".intercalate (split '.' s) = s := intercalate_split rfl s
  obtain ⟨api, rest, hparts⟩ := List.exists_cons_of_ne_nil (split_ne_nil '.' s)
  rw [hparts] at h hdots hs
  obtain rfl | ⟨middle, method, rfl⟩ := List.eq_nil_or_concat' rest
  · simp at h
  have hmiddle : middle ≠ [] := by
    rintro rfl
    simp at h
  refine ⟨⟨api, ".".intercalate middle, method⟩, ?_, hdots _ (by simp), hdots _ (by simp)⟩
  calc s = ".".intercalate ([api] ++ (middle ++ [method])) := hs.symm
    _ = api ++ "." ++ (".".intercalate middle ++ "." ++ method) := by
      rw [String.intercalate_append_of_ne_nil (by simp) (by simp),
        String.intercalate_append_of_ne_nil hmiddle (by simp), String.intercalate_singleton,
        String.intercalate_singleton]
    _ = text ⟨api, ".".intercalate middle, method⟩ := by
      simp only [text, String.append_assoc]

/-- A text is an activity name exactly if it has three parts or more between its dots and none of
them is empty. It is then the full name of what it is split into, and of nothing else that is well
formed. -/
theorem ofText?_splits_names (s : String) :
    ((∃ a, ofText? s = some a) ↔ 3 ≤ (split '.' s).length ∧ "" ∉ split '.' s) ∧
      ∀ a, ofText? s = some a ↔ a.IsWellFormed ∧ s = a.text := by
  constructor
  · simp only [ofText?_eq_some_iff]
    constructor
    · rintro ⟨a, ⟨rfl, hapi, hmethod⟩, hfull⟩
      refine ⟨?_, hfull⟩
      have hresource := List.length_pos_of_ne_nil (split_ne_nil '.' a.resource)
      rw [split_text hapi hmethod, List.length_cons, List.length_append, List.length_singleton]
      omega
    · rintro ⟨hlength, hfull⟩
      obtain ⟨a, ha⟩ := exists_text_of_split hlength
      exact ⟨a, ha, hfull⟩
  · intro a
    rw [ofText?_eq_some_iff, isWellFormed_iff]
    constructor
    · rintro ⟨⟨rfl, hdots⟩, hfull⟩
      exact ⟨⟨hdots, hfull⟩, rfl⟩
    · rintro ⟨⟨hdots, hfull⟩, rfl⟩
      exact ⟨⟨rfl, hdots⟩, hfull⟩

example : ofText? "youtube.liveChat.messages.insert" =
    some ⟨"youtube", "liveChat.messages", "insert"⟩ := by
  decide

end ApiTypes.ActivityName

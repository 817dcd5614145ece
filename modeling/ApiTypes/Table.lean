/-!
Tables from names to values in order of first appearance. Storing under a name that is already
there keeps its place and replaces its value.
-/
namespace ApiTypes

/-- Names with their values, in order of first appearance. -/
abbrev Table (α : Type u) := List (String × α)

namespace Table
variable {α : Type u}

/-- The value stored under `key`. -/
def get? (t : Table α) (key : String) : Option α :=
  t.lookup key

/-- Stores what `f` makes of the present value, in its place or at the end. -/
def adjust (key : String) (f : Option α → α) : Table α → Table α
  | [] => [(key, f none)]
  | (k, a) :: rest => if k = key then (k, f (some a)) :: rest else (k, a) :: adjust key f rest

/-- Stores `a` under `key`. -/
def insert (t : Table α) (key : String) (a : α) : Table α :=
  adjust key (fun _ => a) t

/-- Stores pairs one after another, so a repeated name keeps its first place and last value. -/
def ofPairs (pairs : List (String × α)) : Table α :=
  pairs.foldl (fun t p => Table.insert t p.1 p.2) []

/-- The names, in order. -/
def keys (t : Table α) : List String :=
  t.map Prod.fst

/-- The values, in order. -/
def values (t : Table α) : List α :=
  t.map Prod.snd

@[simp] theorem get?_nil (key : String) : get? ([] : Table α) key = none := rfl

theorem get?_cons (p : String × α) (t : Table α) (key : String) :
    get? (p :: t) key = if key = p.1 then some p.2 else get? t key := by
  obtain ⟨k, a⟩ := p
  by_cases h : key = k
  · simp [get?, h]
  · have : (key == k) = false := by simp [h]
    simp [get?, List.lookup_cons, h, this]

/-- After storing, the name has its new value and every other name keeps its own. -/
theorem get?_adjust (key k : String) (f : Option α → α) (t : Table α) :
    get? (adjust key f t) k = if k = key then some (f (get? t key)) else get? t k := by
  induction t with
  | nil => simp [adjust, get?_cons]
  | cons p rest ih =>
    obtain ⟨k', a⟩ := p
    by_cases hk : k' = key
    · subst hk
      by_cases h : k = k' <;> simp [adjust, get?_cons, h]
    · by_cases h : k = k'
      · subst h
        simp [adjust, get?_cons, hk]
      · simp [adjust, get?_cons, hk, h, ih, Ne.symm hk]

/-- Storing appends the name iff it was not there. -/
theorem keys_adjust (key : String) (f : Option α → α) (t : Table α) :
    keys (adjust key f t) = if key ∈ keys t then keys t else keys t ++ [key] := by
  induction t with
  | nil => simp [adjust, keys]
  | cons p rest ih =>
    obtain ⟨k, a⟩ := p
    by_cases hk : k = key
    · simp [adjust, keys, hk]
    · simp only [keys] at ih
      simp only [adjust, hk, if_false, keys, List.map_cons, List.mem_cons, ih]
      by_cases h : key ∈ List.map Prod.fst rest <;> simp [h, Ne.symm hk]

theorem adjust_of_not_mem {t : Table α} {key : String} (f : Option α → α) (h : key ∉ t.keys) :
    adjust key f t = t ++ [(key, f none)] := by
  induction t with
  | nil => rfl
  | cons p rest ih =>
    simp only [keys, List.map_cons, List.mem_cons, not_or] at h
    simp [adjust, Ne.symm h.1, ih h.2]

theorem adjust_append_last {t : Table α} {key : String} (f : Option α → α) (a : α)
    (h : key ∉ t.keys) : adjust key f (t ++ [(key, a)]) = t ++ [(key, f (some a))] := by
  induction t with
  | nil => simp [adjust]
  | cons p rest ih =>
    simp only [keys, List.map_cons, List.mem_cons, not_or] at h
    simp [adjust, Ne.symm h.1, ih h.2]

theorem nodup_keys_adjust {t : Table α} {key : String} (f : Option α → α) (h : t.keys.Nodup) :
    (adjust key f t).keys.Nodup := by
  rw [keys_adjust]
  split
  · exact h
  next hk =>
    refine List.nodup_append.2 ⟨h, by simp, fun k hk' k' hlast => ?_⟩
    rw [List.mem_singleton.1 hlast]
    rintro rfl
    exact hk hk'

theorem foldl_insert_of_nodup {t pairs : Table α} (h : (t ++ pairs).keys.Nodup) :
    pairs.foldl (fun t p => insert t p.1 p.2) t = t ++ pairs := by
  induction pairs generalizing t with
  | nil => simp
  | cons p rest ih =>
    have hfresh : p.1 ∉ t.keys := by
      simp only [keys, List.map_append, List.map_cons, List.nodup_append] at h
      exact fun hp => h.2.2 _ hp _ (List.mem_cons_self ..) rfl
    rw [List.foldl_cons, insert, adjust_of_not_mem _ hfresh, ih (by simpa using h)]
    simp

/-- Pairs with no name twice are the table that they make. -/
theorem ofPairs_of_nodup {pairs : Table α} (h : pairs.keys.Nodup) : ofPairs pairs = pairs :=
  foldl_insert_of_nodup (t := []) h

theorem mem_or_eq_of_mem_insert {t : Table α} {key : String} {a : α} {p : String × α}
    (h : p ∈ insert t key a) : p ∈ t ∨ p = (key, a) := by
  induction t with
  | nil => exact Or.inr (List.mem_singleton.1 h)
  | cons q rest ih =>
    obtain ⟨k, b⟩ := q
    simp only [insert, adjust] at h ih
    split at h
    next hk =>
      subst hk
      rcases List.mem_cons.1 h with rfl | h
      · exact Or.inr rfl
      · exact Or.inl (List.mem_cons_of_mem _ h)
    next =>
      rcases List.mem_cons.1 h with rfl | h
      · exact Or.inl List.mem_cons_self
      · exact (ih h).imp_left (List.mem_cons_of_mem _)

theorem mem_or_mem_of_mem_foldl_insert {t pairs : Table α} {p : String × α}
    (h : p ∈ pairs.foldl (fun t p => insert t p.1 p.2) t) : p ∈ t ∨ p ∈ pairs := by
  induction pairs generalizing t with
  | nil => exact Or.inl h
  | cons q rest ih =>
    rcases ih h with h | h
    · rcases mem_or_eq_of_mem_insert h with h | rfl
      · exact Or.inl h
      · exact Or.inr List.mem_cons_self
    · exact Or.inr (List.mem_cons_of_mem _ h)

/-- A table holds nothing but the pairs that it was made of. -/
theorem mem_of_mem_ofPairs {pairs : Table α} {p : String × α} (h : p ∈ ofPairs pairs) :
    p ∈ pairs :=
  (mem_or_mem_of_mem_foldl_insert h).resolve_left List.not_mem_nil

/-- Where no name repeats, each value is found under its name. -/
theorem lookup_of_mem {κ : Type v} [BEq κ] [LawfulBEq κ] {l : List (κ × α)}
    (hn : (l.map Prod.fst).Nodup) {k : κ} {a : α} (h : (k, a) ∈ l) : l.lookup k = some a := by
  induction l with
  | nil => cases h
  | cons p rest ih =>
    simp only [List.map_cons, List.nodup_cons] at hn
    rcases List.mem_cons.1 h with rfl | h
    · simp
    · have hne : (k == p.1) = false := by
        simp only [beq_eq_false_iff_ne]
        rintro rfl
        exact hn.1 (List.mem_map.2 ⟨_, h, rfl⟩)
      rw [List.lookup_cons, hne]
      exact ih hn.2 h

end Table

end ApiTypes

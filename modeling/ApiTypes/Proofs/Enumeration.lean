import Mathlib.Data.List.Forall2

/-!
Items listed by their places. When the places are ordered, a list of all items is told by what is at
which place, and such lists are put together as the places are.
-/
namespace ApiTypes

/-- The entries are all items with their places, in the order of the places. -/
structure Enumerates {π β : Type} (Before : π → π → Prop) (At : π → β → Prop)
    (entries : List (π × β)) : Prop where
  mem_iff : ∀ place item, (place, item) ∈ entries ↔ At place item
  ordered : entries.Pairwise fun a b => Before a.1 b.1

namespace Enumerates
variable {α β π ρ : Type} {Before : π → π → Prop} {At At' : π → β → Prop}
  {entries entries' rest : List (π × β)}

theorem congr (h : Enumerates Before At entries)
    (hat : ∀ place item, At place item ↔ At' place item) : Enumerates Before At' entries where
  mem_iff place item := (h.mem_iff place item).trans (hat place item)
  ordered := h.ordered

theorem mem_values_iff (h : Enumerates Before At entries) {item : β} :
    item ∈ entries.map Prod.snd ↔ ∃ place, At place item := by
  simp only [List.mem_map, Prod.exists, h.mem_iff, exists_eq_right]

theorem nodup (hasymm : ∀ a b, Before a b → ¬ Before b a) (h : Enumerates Before At entries) :
    entries.Nodup := by
  refine h.ordered.imp ?_
  rintro a _ hab rfl
  exact hasymm _ _ hab hab

/-- What is at which place leaves no choice, as long as no two places come before each other. -/
theorem unique (hasymm : ∀ a b, Before a b → ¬ Before b a) (h : Enumerates Before At entries)
    (h' : Enumerates Before At entries') : entries = entries' := by
  have hperm : entries.Perm entries' := by
    refine (List.perm_ext_iff_of_nodup (h.nodup hasymm) (h'.nodup hasymm)).2 fun entry => ?_
    exact (h.mem_iff ..).trans (h'.mem_iff ..).symm
  exact hperm.eq_of_pairwise (fun a b _ _ hab hba => absurd hba (hasymm _ _ hab)) h.ordered
    h'.ordered

theorem nil (h : ∀ place item, ¬ At place item) : Enumerates Before At [] where
  mem_iff place item := by simp [h place item]
  ordered := .nil

theorem singleton (place : π) (item : β) :
    Enumerates Before (fun place' item' => place' = place ∧ item' = item) [(place, item)] where
  mem_iff place' item' := by simp
  ordered := List.pairwise_singleton ..

theorem append (h : Enumerates Before At entries) (hrest : Enumerates Before At' rest)
    (hbefore : ∀ a x b y, At a x → At' b y → Before a b) :
    Enumerates Before (fun place item => At place item ∨ At' place item) (entries ++ rest) where
  mem_iff place item := by rw [List.mem_append, h.mem_iff, hrest.mem_iff]
  ordered := by
    refine List.pairwise_append.2 ⟨h.ordered, hrest.ordered, fun a ha b hb => ?_⟩
    exact hbefore a.1 a.2 b.1 b.2 ((h.mem_iff ..).1 ha) ((hrest.mem_iff ..).1 hb)

/-- Places of one enumeration, all moved to new places in the same order. -/
theorem map {Before' : ρ → ρ → Prop} {f : π → ρ} (h : Enumerates Before At entries)
    (hf : ∀ a b, Before a b → Before' (f a) (f b)) :
    Enumerates Before' (fun place item => ∃ a, place = f a ∧ At a item)
      (entries.map fun entry => (f entry.1, entry.2)) where
  mem_iff place item := by
    rw [List.mem_map]
    constructor
    · rintro ⟨⟨a, x⟩, hmem, heq⟩
      cases heq
      exact ⟨a, rfl, (h.mem_iff a x).1 hmem⟩
    · rintro ⟨a, rfl, hitem⟩
      exact ⟨(a, item), (h.mem_iff a item).2 hitem, rfl⟩
  ordered := List.pairwise_map.2 (h.ordered.imp (hf _ _))

/-- The enumerations of the elements of a list, one after another, enumerate places below those of
the elements. The places of the elements are counted from `k`. -/
theorem exists_flatten {At : α → π → β → Prop} (Before' : ρ → ρ → Prop) (below : Nat → α → π → ρ)
    (hwithin : ∀ i a x y, Before x y → Before' (below i a x) (below i a y))
    (hacross : ∀ i j a b x y, i < j → Before' (below i a x) (below j b y)) {as : List α}
    {lists : List (List β)}
    (h : List.Forall₂ (fun a items => ∃ entries, items = entries.map Prod.snd ∧
      Enumerates Before (At a) entries) as lists) (k : Nat) :
    ∃ entries, lists.flatten = entries.map Prod.snd ∧
      Enumerates Before' (fun place item => ∃ i a x, as[i]? = some a ∧
        place = below (k + i) a x ∧ At a x item) entries := by
  induction h generalizing k with
  | nil => exact ⟨[], rfl, .nil (by simp)⟩
  | @cons a items as lists ha _ ih =>
    obtain ⟨entries, hitems, hentries⟩ := ha
    obtain ⟨rest, hrestItems, hrest⟩ := ih (k + 1)
    have hmapped := hentries.map (hwithin k a)
    refine ⟨_, ?_, (hmapped.append hrest ?_).congr fun place item => ?_⟩
    · simp [hitems, hrestItems, Function.comp_def]
    · rintro _ x _ y ⟨u, rfl, _⟩ ⟨i, b, v, _, rfl, _⟩
      exact hacross k (k + 1 + i) a b u v (by omega)
    · constructor
      · rintro (⟨x, rfl, hx⟩ | ⟨i, b, x, hb, rfl, hx⟩)
        · exact ⟨0, a, x, rfl, rfl, hx⟩
        · exact ⟨i + 1, b, x, hb, by rw [Nat.add_right_comm, Nat.add_assoc], hx⟩
      · rintro ⟨i, b, x, hb, rfl, hx⟩
        cases i with
        | zero =>
          cases hb
          exact Or.inl ⟨x, rfl, hx⟩
        | succ i => exact Or.inr ⟨i, b, x, hb, by rw [Nat.add_right_comm, Nat.add_assoc], hx⟩

/-- What is made of the elements of a list one by one, at places that follow each other. -/
theorem exists_map (Before : π → π → Prop) (f : α → β) (place : Nat → π)
    (hplace : ∀ i j, i < j → Before (place i) (place j)) (as : List α) :
    ∃ entries, as.map f = entries.map Prod.snd ∧
      Enumerates Before (fun p item => ∃ i a, as[i]? = some a ∧ p = place i ∧ item = f a)
        entries := by
  have hsingle : List.Forall₂ (fun a items => ∃ entries : List (Unit × β),
      items = entries.map Prod.snd ∧
        Enumerates (fun _ _ => False) (fun p item => p = () ∧ item = f a) entries) as
      (as.map fun a => [f a]) :=
    List.forall₂_map_right_iff.2 (List.forall₂_same.2 fun a _ => ⟨_, rfl, .singleton () (f a)⟩)
  obtain ⟨entries, heq, hentries⟩ := exists_flatten Before (fun i _ _ => place i)
    (fun _ _ _ _ => False.elim) (fun i j _ _ _ _ => hplace i j) hsingle 0
  refine ⟨entries, ?_, hentries.congr fun p item => ?_⟩
  · rw [← heq, ← List.flatMap_def, List.map_eq_flatMap]
  · simp

end Enumerates

end ApiTypes

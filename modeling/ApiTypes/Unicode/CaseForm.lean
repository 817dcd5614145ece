import ApiTypes.Unicode.Ascii

/-!
What case mapping makes of a character. Every character has a small form and a capital one. No
capital form holds a small letter of ASCII, and the underscore is in no small form but its own.
-/
namespace ApiTypes.Unicode
variable {c d : Char}

theorem toNat_ofNat (n : Nat) : (Char.ofNat n).toNat = n ∨ (Char.ofNat n).toNat = 0 := by
  by_cases hn : n.isValidChar
  · rw [Char.ofNat, dif_pos hn]
    exact Or.inl rfl
  · rw [Char.ofNat, dif_neg hn]
    exact Or.inr rfl

section maps
variable {p : Char → Bool} {targets : List Nat} {runs : List CaseRun}
  {expansions : List (Nat × List Char)}

/-- A run leads to no code point in `targets` if it covers none of those that it would move there.
The code point zero, which stands for what is no character, must not be among them. -/
theorem CaseRun.apply_eq_false {r : CaseRun} (hp : ∀ c, p c = true → c.toNat ∈ targets)
    (hzero : 0 ∉ targets) (hr : ∀ m ∈ targets, r.covers ((m : Int) - r.shift).toNat = false)
    {n : Nat} (hn : r.covers n = true) : p (r.apply n) = false := by
  rw [← Bool.not_eq_true]
  intro htrue
  have hmem := hp _ htrue
  rcases toNat_ofNat (n + r.shift).toNat with heq | heq
  · rw [apply, heq] at hmem
    have hpos : (n + r.shift).toNat ≠ 0 := fun hnone => hzero (hnone ▸ hmem)
    have hback : (((n + r.shift).toNat : Int) - r.shift).toNat = n := by omega
    have hcovers := hr _ hmem
    rw [hback, hn] at hcovers
    cases hcovers
  · rw [apply, heq] at hmem
    exact hzero hmem

/-- What neither a character has nor anything that the tables lead to, no form of it has. -/
theorem eq_false_of_mem_mapCase (hp : ∀ c, p c = true → c.toNat ∈ targets) (hzero : 0 ∉ targets)
    (hruns : ∀ r ∈ runs, ∀ m ∈ targets, r.covers ((m : Int) - r.shift).toNat = false)
    (hexpansions : ∀ e ∈ expansions, e.2.all (!p ·) = true) (hc : p c = false)
    (hd : d ∈ mapCase runs expansions c) : p d = false := by
  unfold mapCase at hd
  split at hd
  · next expansion hlookup =>
    obtain ⟨front, back, rfl, _⟩ := List.lookup_eq_some_iff.1 hlookup
    have hall := hexpansions _ (List.mem_append_right _ List.mem_cons_self)
    simpa using List.all_eq_true.1 hall d hd
  · split at hd
    · next r hfind =>
      have hcovers := List.find?_some (p := fun r : CaseRun => r.covers c.toNat) hfind
      rw [List.mem_singleton.1 hd]
      exact CaseRun.apply_eq_false hp hzero (hruns r (List.mem_of_find?_eq_some hfind)) hcovers
    · rwa [List.mem_singleton.1 hd]

theorem mapCase_ne_nil (h : ∀ e ∈ expansions, e.2 ≠ []) : mapCase runs expansions c ≠ [] := by
  unfold mapCase
  split
  · next expansion hlookup =>
    obtain ⟨front, back, rfl, _⟩ := List.lookup_eq_some_iff.1 hlookup
    exact h _ (List.mem_append_right _ List.mem_cons_self)
  · split <;> exact List.cons_ne_nil _ _

end maps

theorem lowerChar_ne_nil (c : Char) : lowerChar c ≠ [] := by
  unfold lowerChar
  split
  · exact List.cons_ne_nil _ _
  · exact mapCase_ne_nil (by decide)

theorem upperChar_ne_nil (c : Char) : upperChar c ≠ [] := by
  unfold upperChar
  split
  · exact List.cons_ne_nil _ _
  · exact mapCase_ne_nil (by decide +kernel)

/-- No capital form holds a small letter of ASCII. -/
theorem isLower_of_mem_upperChar (h : d ∈ upperChar c) : d.isLower = false := by
  have hletters (c : Char) (hc : c.isLower = true) : c.toNat ∈ List.range' 0x61 26 :=
    forall_ascii (P := fun c => c.isLower = true → c.toNat ∈ List.range' 0x61 26) (by decide)
      (ascii_of_isSmall (isSmall_of_isLower hc)) hc
  unfold upperChar at h
  split at h
  · next hascii =>
    rw [List.mem_singleton.1 h]
    exact forall_ascii (P := fun c => c.toUpper.isLower = false) (by decide) hascii
  · next hbeyond =>
    have hc : c.isLower = false := by
      rw [← Bool.not_eq_true]
      exact fun hlower => hbeyond (ascii_of_isSmall (isSmall_of_isLower hlower))
    exact eq_false_of_mem_mapCase hletters (by decide) (by decide +kernel) (by decide +kernel) hc h

/-- The underscore is its own small form, and it is in no other. -/
theorem underscore_mem_lowerChar_iff : '_' ∈ lowerChar c ↔ c = '_' := by
  unfold lowerChar
  split
  · next hascii =>
    rw [List.mem_singleton]
    exact forall_ascii (P := fun c => '_' = c.toLower ↔ c = '_') (by decide) hascii
  · next hbeyond =>
    have htarget (c : Char) (hc : (c == '_') = true) : c.toNat ∈ [0x5f] := by
      rw [beq_iff_eq.1 hc]
      decide
    have hmark : (c == '_') = false := by
      rw [beq_eq_false_iff_ne]
      rintro rfl
      exact hbeyond (by decide)
    refine iff_of_false (fun hmem => ?_) (beq_eq_false_iff_ne.1 hmark)
    have hother :=
      eq_false_of_mem_mapCase htarget (by decide) (by decide +kernel) (by decide) hmark hmem
    cases hother

end ApiTypes.Unicode

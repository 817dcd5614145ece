import ApiTypes.Naming
import Mathlib.Data.List.TakeWhile

/-!
Accepted texts that are exactly a name. Reading a text as source code passes over the blanks and
comments around a name, so an accepted text is made into an identifier exactly when it holds
nothing that such surroundings are made of.
-/
namespace ApiTypes.Ident
open Unicode

/-- A character that stands around names only: a blank, the slash of a comment or a byte order
mark. -/
def isSurrounding (c : Char) : Bool :=
  isSourceBlank c || c == '/' || c == '\ufeff'

/-- The code points of the characters around names. -/
def surroundings : List Nat :=
  [0x09, 0x0a, 0x0b, 0x0c, 0x0d, 0x20, 0x2f, 0x85, 0xa0, 0x1680, 0x2000, 0x2001, 0x2002, 0x2003,
    0x2004, 0x2005, 0x2006, 0x2007, 0x2008, 0x2009, 0x200a, 0x200e, 0x200f, 0x2028, 0x2029, 0x202f,
    0x205f, 0x3000, 0xfeff]

theorem toNat_mem_surroundings {c : Char} (h : isSurrounding c = true) :
    c.toNat ∈ surroundings := by
  simp only [isSurrounding, isSourceBlank, isBlank, Bool.or_eq_true, Bool.and_eq_true,
    decide_eq_true_eq, beq_iff_eq] at h
  rcases h with (((hblank | rfl) | rfl) | rfl) | rfl
  · simp only [surroundings, List.mem_cons, List.not_mem_nil, or_false]
    omega
  all_goals decide

/-- What no character around names has. -/
theorem eq_false_of_isSurrounding {p : Char → Bool}
    (hp : ∀ n ∈ surroundings, p (Char.ofNat n) = false) {c : Char} (h : isSurrounding c = true) :
    p c = false := by
  have hc := hp c.toNat (toNat_mem_surroundings h)
  rwa [Char.ofNat_toNat] at hc

theorem isXidContinue_of_isSurrounding {c : Char} (h : isSurrounding c = true) :
    isXidContinue c = false :=
  eq_false_of_isSurrounding (by decide +kernel) h

theorem isStart_of_isSurrounding {c : Char} (h : isSurrounding c = true) : isStart c = false :=
  eq_false_of_isSurrounding (by decide +kernel) h

theorem isAlphanumeric_of_isSurrounding {c : Char} (h : isSurrounding c = true) :
    isAlphanumeric c = false :=
  eq_false_of_isSurrounding (by decide +kernel) h

theorem ne_of_not_surrounding {c d : Char} (h : isSurrounding c = false)
    (hd : isSurrounding d = true) : c ≠ d := by
  rintro rfl
  rw [h] at hd
  cases hd

/-- Outside comments, a scan stays where no blank and no comment begins. -/
theorem skipGap_eq_self {text : List Char} (h : ∀ c ∈ text, isSurrounding c = false) :
    skipGap .outside text = some text := by
  cases text with
  | nil => rfl
  | cons c rest =>
    have hc := h c List.mem_cons_self
    have hslash : c ≠ '/' := ne_of_not_surrounding hc (by decide)
    have hblank : isSourceBlank c = false := by
      simp only [isSurrounding, Bool.or_eq_false_iff] at hc
      exact hc.1.1
    unfold skipGap
    split
    all_goals simp_all

theorem dropByteOrderMark_eq_self {text : List Char} (h : ∀ c ∈ text, isSurrounding c = false) :
    dropByteOrderMark text = text := by
  unfold dropByteOrderMark
  split
  · exact absurd rfl (ne_of_not_surrounding (h _ List.mem_cons_self) (by decide))
  · rfl

theorem mem_of_mem_cutRaw {text : List Char} {c : Char} (h : c ∈ (cutRaw text).2) : c ∈ text := by
  unfold cutRaw at h
  split at h
  · exact List.mem_cons_of_mem _ (List.mem_cons_of_mem _ h)
  · exact h

theorem cutName?_eq_some_nil {text name : List Char} (h : cutName? text = some (name, [])) :
    isName text = true ∧ name = text := by
  unfold cutName? at h
  split at h
  · next c rest =>
    split at h
    · next hc =>
      simp only [Option.some.injEq, Prod.mk.injEq] at h
      obtain ⟨rfl, hrest⟩ := h
      have hwhole : rest.takeWhile isXidContinue = rest := by
        have happend := List.takeWhile_append_dropWhile (p := isXidContinue) (l := rest)
        rwa [hrest, List.append_nil] at happend
      have hall : rest.all isXidContinue = true := by
        rw [← hwhole]
        exact List.all_takeWhile
      exact ⟨by simp [isName, hc, hall], by rw [hwhole]⟩
    · cases h
  · cases h

theorem mem_of_cutName? {text name rest : List Char} (h : cutName? text = some (name, rest))
    {c : Char} (hc : c ∈ rest) : c ∈ text := by
  unfold cutName? at h
  split at h
  · split at h
    · simp only [Option.some.injEq, Prod.mk.injEq] at h
      obtain ⟨_, rfl⟩ := h
      exact List.mem_cons_of_mem _ ((List.dropWhile_sublist _).subset hc)
    · cases h
  · cases h

/-- An accepted text with nothing around its name is made into an identifier, which is no keyword
unless it is raw. -/
theorem exists_of_accepts {s : String} (h : accepts s = true)
    (hs : ∀ c ∈ s.toList, isSurrounding c = false) :
    ∃ i, ofText? s = some i ∧ isUsable i.raw i.name = true := by
  rw [accepts, dropByteOrderMark_eq_self hs, skipGap_eq_self hs] at h
  cases hcut : cutRaw s.toList with
  | mk raw text =>
  have htext : ∀ c ∈ text, c ∈ s.toList := fun c hc => mem_of_mem_cutRaw (by rwa [hcut])
  simp only [hcut] at h
  cases hname : cutName? text with
  | none => simp [hname] at h
  | some cut =>
  obtain ⟨name, rest⟩ := cut
  have hrest : ∀ c ∈ rest, isSurrounding c = false :=
    fun c hc => hs c (htext c (mem_of_cutName? hname hc))
  simp only [hname, skipGap_eq_self hrest, Bool.and_eq_true, Option.any_some,
    List.isEmpty_iff] at h
  obtain ⟨husable, rfl⟩ := h
  obtain ⟨hexact, rfl⟩ := cutName?_eq_some_nil hname
  have hraw : raw = true → String.ofList name ∉ neverRaw := by
    rintro rfl
    simpa [isUsable] using husable
  refine ⟨⟨raw, String.ofList name, by simpa using hexact, hraw⟩, ?_, husable⟩
  simp only [ofText?, hcut, String.toList_ofList]
  rw [dif_pos hexact, dif_pos hraw]

section chars
variable {c : Char}

theorem start_or_continue_of_isName {text : List Char} (h : isName text = true) (hc : c ∈ text) :
    isStart c = true ∨ isXidContinue c = true := by
  cases text with
  | nil => cases hc
  | cons d rest =>
    simp only [isName, Bool.and_eq_true, List.all_eq_true] at h
    rcases List.mem_cons.1 hc with rfl | hmem
    · exact Or.inl h.1
    · exact Or.inr (h.2 c hmem)

/-- Apart from the mark of raw names, an identifier is made of what names are made of. -/
theorem start_or_continue_of_mem_text {i : Ident} (h : c ∈ i.text.toList) :
    c = '#' ∨ isStart c = true ∨ isXidContinue c = true := by
  unfold Ident.text at h
  split at h
  · rw [String.toList_append] at h
    rcases List.mem_append.1 h with hmark | hmem
    · have hcases : c = 'r' ∨ c = '#' := by simpa using hmark
      rcases hcases with rfl | rfl
      · exact Or.inr (Or.inl (by decide))
      · exact Or.inl rfl
    · exact Or.inr (start_or_continue_of_isName i.exact hmem)
  · exact Or.inr (start_or_continue_of_isName i.exact h)

theorem not_surrounding_of_start_or_continue (h : isStart c = true ∨ isXidContinue c = true) :
    isSurrounding c = false := by
  rw [← Bool.not_eq_true]
  intro hsurrounding
  rcases h with hstart | hcontinue
  · cases (isStart_of_isSurrounding hsurrounding).symm.trans hstart
  · cases (isXidContinue_of_isSurrounding hsurrounding).symm.trans hcontinue

/-- An identifier holds nothing that stands around names. -/
theorem not_surrounding_of_mem_text {i : Ident} (h : c ∈ i.text.toList) :
    isSurrounding c = false := by
  rcases start_or_continue_of_mem_text h with rfl | hname
  · decide
  · exact not_surrounding_of_start_or_continue hname

end chars

theorem cutRaw_of_isName {text : List Char} (h : isName text = true) :
    cutRaw text = (false, text) := by
  unfold cutRaw
  split
  · next rest =>
    -- no name goes on with the sign of raw names
    have hmark : isXidContinue '#' = false := by decide
    simp [isName, hmark] at h
  · rfl

theorem cutName?_of_isName {text : List Char} (h : isName text = true) :
    cutName? text = some (text, []) := by
  cases text with
  | nil => cases h
  | cons c rest =>
    simp only [isName, Bool.and_eq_true, List.all_eq_true] at h
    rw [cutName?, if_pos h.1, List.takeWhile_eq_self_iff.2 h.2, List.dropWhile_eq_nil_iff.2 h.2]

/-- A text that is a name and nothing else is accepted unless it is a keyword. -/
theorem accepts_iff_of_isName {s : String} (h : isName s.toList = true) :
    accepts s = true ↔ s ∉ keywords := by
  have hs : ∀ c ∈ s.toList, isSurrounding c = false := fun c hc =>
    not_surrounding_of_start_or_continue (start_or_continue_of_isName h hc)
  have hread : accepts s = isUsable false (String.ofList s.toList) := by
    have hend : skipGap .outside [] = some [] := rfl
    rw [accepts, dropByteOrderMark_eq_self hs, skipGap_eq_self hs]
    simp only [cutRaw_of_isName h, cutName?_of_isName h, hend, Option.any_some, List.isEmpty_nil,
      Bool.and_true]
  rw [hread, isUsable, if_neg Bool.false_ne_true, String.ofList_toList, Bool.not_eq_true',
    List.contains_eq_mem, decide_eq_false_iff_not]

/-- Of an accepted text, an identifier can be made exactly when nothing stands around the name. -/
theorem isSome_ofText?_iff {s : String} (h : accepts s = true) :
    (ofText? s).isSome = true ↔ ∀ c ∈ s.toList, isSurrounding c = false := by
  constructor
  · intro hsome
    obtain ⟨i, hi⟩ := Option.isSome_iff_exists.1 hsome
    rw [← text_of_ofText? hi]
    exact fun c hc => not_surrounding_of_mem_text hc
  · intro hs
    obtain ⟨i, hi, _⟩ := exists_of_accepts h hs
    simp [hi]

end ApiTypes.Ident

namespace ApiTypes.Naming
open Unicode

/-- Field names are made of letters, numerals and underscores. -/
theorem mem_fieldName {property : String} {c : Char} (h : c ∈ (fieldName property).toList) :
    isAlphanumeric c = true ∨ c = '_' := by
  have hchar : ∀ d : Char, isAlphanumeric (nameChar d) = true ∨ nameChar d = '_' := by
    intro d
    unfold nameChar
    split
    · next hd => simpa using hd
    · exact Or.inr rfl
  have hguard : ∀ {name : List Char}, c ∈ guardStart name → c = '_' ∨ c ∈ name := by
    intro name hmem
    unfold guardStart at hmem
    split at hmem
    · exact Or.inl (List.mem_singleton.1 hmem)
    · split at hmem
      · exact List.mem_cons.1 hmem
      · exact Or.inr hmem
  have hreserved : c = '_' ∨
      c ∈ guardStart ((Text.snakeCase property).toList.map nameChar) := by
    unfold fieldName avoidReserved at h
    split at h
    · simpa [or_comm] using h
    · exact Or.inr (by simpa using h)
  rcases hreserved with rfl | hmem
  · exact Or.inr rfl
  · rcases hguard hmem with rfl | hmem
    · exact Or.inr rfl
    · obtain ⟨d, _, rfl⟩ := List.mem_map.1 hmem
      exact hchar d

theorem not_mem_fieldName {property : String} {c : Char} (halpha : isAlphanumeric c = false)
    (hne : c ≠ '_') : c ∉ (fieldName property).toList := by
  intro hmem
  rcases mem_fieldName hmem with h | h
  · rw [halpha] at h
    cases h
  · exact hne h

/-- A field name that is accepted is a plain identifier. -/
theorem exists_of_accepts_fieldName {property : String}
    (h : Ident.accepts (fieldName property) = true) :
    ∃ i, Ident.ofText? (fieldName property) = some i ∧ i.raw = false ∧ i.name ∉ Ident.keywords := by
  have hs : ∀ c ∈ (fieldName property).toList, Ident.isSurrounding c = false := by
    intro c hc
    rw [← Bool.not_eq_true]
    intro hsurrounding
    refine not_mem_fieldName (Ident.isAlphanumeric_of_isSurrounding hsurrounding) ?_ hc
    rintro rfl
    revert hsurrounding
    decide
  obtain ⟨i, hi, husable⟩ := Ident.exists_of_accepts h hs
  have hplain : i.raw = false := by
    rw [← Bool.not_eq_true]
    intro hraw
    have hmark : '#' ∈ (fieldName property).toList := by
      rw [← Ident.text_of_ofText? hi]
      simp [Ident.text, hraw]
    exact not_mem_fieldName (by decide) (by decide) hmark
  exact ⟨i, hi, hplain, by simpa [Ident.isUsable, hplain] using husable⟩

end ApiTypes.Naming

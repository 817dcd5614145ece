import ApiTypes.Activity.Name
import ApiTypes.Unicode.CaseForm
import Mathlib.Data.List.Basic

/-!
The type that the methods of a resource work on. The parts of a path are capitalized and joined
before the plural falls away. As plural suffixes are made of small letters, and no part begins with
one when it is capitalized, a suffix cannot reach beyond the last part or take all of it.
-/
namespace ApiTypes
open Text Unicode

namespace Text

/-- The endings that a plural loses. -/
def pluralSuffixes : List String :=
  ["ies", "s"]

variable {s b stem suffix : String} {c : Char} {rest : List Char}

theorem cutEnd?_eq_none_iff :
    cutEnd? suffix.toList s.toList = none ↔ ∀ stem, s ≠ stem ++ suffix := by
  rw [Option.eq_none_iff_forall_ne_some]
  constructor
  · intro hnone stem heq
    exact hnone stem.toList (cutEnd?_eq_some_iff.2 (by rw [heq, String.toList_append]))
  · intro hends stem hcut
    exact hends (String.ofList stem) (by simp [← String.toList_inj, cutEnd?_eq_some_iff.1 hcut])

/-- A text is its own singular exactly if it ends in none of the suffixes. -/
theorem singular_eq_self_iff :
    singular s = s ↔ ∀ suffix ∈ pluralSuffixes, ∀ stem, s ≠ stem ++ suffix := by
  have hends : (∀ suffix ∈ pluralSuffixes, ∀ stem, s ≠ stem ++ suffix) ↔
      cutEnd? ['i', 'e', 's'] s.toList = none ∧ cutEnd? ['s'] s.toList = none := by
    simp only [← cutEnd?_eq_none_iff, pluralSuffixes, List.forall_mem_cons]
    simp
  rw [hends, singular, ← String.toList_inj]
  cases hies : cutEnd? ['i', 'e', 's'] s.toList with
  | some stem => simp [cutEnd?_eq_some_iff.1 hies]
  | none =>
    cases hs : cutEnd? ['s'] s.toList with
    | some stem => simp [cutEnd?_eq_some_iff.1 hs]
    | none => simp

/-- A capitalized text begins with what is no small letter of ASCII. -/
theorem exists_toList_capitalize (h : s ≠ "") :
    ∃ c rest, (capitalize s).toList = c :: rest ∧ c.isLower = false := by
  unfold capitalize
  split
  · next hs => exact absurd (String.toList_eq_nil_iff.1 hs) h
  · next d tail hs =>
    obtain ⟨c, rest, hc⟩ := List.exists_cons_of_ne_nil (upperChar_ne_nil d)
    refine ⟨c, rest ++ tail, by simp [hc], isLower_of_mem_upperChar (c := d) ?_⟩
    rw [hc]
    exact List.mem_cons_self

section suffixes
variable (hb : b.toList = c :: rest) (hc : c.isLower = false)
include hc

theorem not_mem_pluralSuffix (hsuffix : suffix ∈ pluralSuffixes) : c ∉ suffix.toList := by
  have hsmall : ∀ suffix ∈ pluralSuffixes, suffix.toList.all Char.isLower = true := by decide
  intro hmem
  cases hc.symm.trans (List.all_eq_true.1 (hsmall suffix hsuffix) c hmem)

include hb

/-- A plural suffix of two texts is one of the second, and not all of it. -/
theorem append_eq_append_pluralSuffix_iff (hsuffix : suffix ∈ pluralSuffixes) (a : String) :
    a ++ b = stem ++ suffix ↔ ∃ core, core ≠ "" ∧ b = core ++ suffix ∧ stem = a ++ core := by
  constructor
  · intro heq
    have hlist := congrArg String.toList heq
    rw [String.toList_append, String.toList_append, hb,
      append_cons_eq_append_iff (not_mem_pluralSuffix hc hsuffix)] at hlist
    obtain ⟨core, hrest, hstem⟩ := hlist
    refine ⟨String.ofList (c :: core), by simp [← String.toList_inj], ?_, ?_⟩
    · simp [← String.toList_inj, hb, hrest]
    · simp [← String.toList_inj, hstem]
  · rintro ⟨core, _, rfl, rfl⟩
    rw [String.append_assoc]

/-- The plural falls away at the end, whatever stands in front. -/
theorem singular_append (a : String) : singular (a ++ b) = a ++ singular b := by
  have hies : c ∉ ['i', 'e', 's'] := @not_mem_pluralSuffix "ies" c hc (by decide)
  have hs : c ∉ ['s'] := @not_mem_pluralSuffix "s" c hc (by decide)
  have hcut (suffix : List Char) (h : c ∉ suffix) :
      cutEnd? suffix (a ++ b).toList = (cutEnd? suffix b.toList).map (a.toList ++ ·) := by
    rw [String.toList_append, hb, cutEnd?_append_cons h, ← List.nil_append (c :: rest),
      cutEnd?_append_cons h, Option.map_map]
    rfl
  rw [singular, singular, hcut _ hies, hcut _ hs]
  cases cutEnd? ['i', 'e', 's'] b.toList <;> cases cutEnd? ['s'] b.toList <;> simp

theorem singular_ne_empty : singular b ≠ "" := by
  have hs : c ∉ ['s'] := @not_mem_pluralSuffix "s" c hc (by decide)
  rw [singular]
  split
  · simp [← String.toList_inj]
  · split
    · next stem hstem =>
      rw [hb, ← List.nil_append (c :: rest), cutEnd?_append_cons hs,
        Option.map_eq_some_iff] at hstem
      obtain ⟨core, _, rfl⟩ := hstem
      simp [← String.toList_inj]
    · rintro rfl
      cases hb

end suffixes

end Text

namespace ActivityName
variable {resource : String}

/-- Of a path without empty parts, only the last part is made singular, and some of it is left. It
stays as it is exactly if it has no plural suffix, and a plural suffix of the joined parts is one of
the last part, behind its first character. -/
theorem resourceTypeName_singular_last (h : "" ∉ split '.' resource) :
    ∃ front last, split '.' resource = front ++ [last] ∧
      resourceTypeName resource =
        String.join (front.map capitalize) ++ singular (capitalize last) ∧
      resourceTypeName resource ≠ "" ∧
      (singular (capitalize last) = capitalize last ↔
        ∀ suffix ∈ pluralSuffixes, ∀ stem, capitalize last ≠ stem ++ suffix) ∧
      ∀ suffix ∈ pluralSuffixes, ∀ stem,
        String.join ((split '.' resource).map capitalize) = stem ++ suffix ↔
          ∃ core, core ≠ "" ∧ capitalize last = core ++ suffix ∧
            stem = String.join (front.map capitalize) ++ core := by
  obtain hnil | ⟨front, last, hparts⟩ := List.eq_nil_or_concat' (split '.' resource)
  · exact absurd hnil (split_ne_nil '.' resource)
  have hlast : last ≠ "" := by
    rintro rfl
    exact h (by simp [hparts])
  obtain ⟨c, rest, hb, hc⟩ := exists_toList_capitalize hlast
  have hjoin : String.join ((split '.' resource).map capitalize) =
      String.join (front.map capitalize) ++ capitalize last := by
    simp [hparts]
  have hname : resourceTypeName resource =
      String.join (front.map capitalize) ++ singular (capitalize last) := by
    rw [resourceTypeName, hjoin, singular_append hb hc]
  refine ⟨front, last, hparts, hname, ?_, singular_eq_self_iff, fun suffix hsuffix stem => ?_⟩
  · rw [hname]
    intro hempty
    exact singular_ne_empty hb hc (String.append_eq_empty_iff.1 hempty).2
  · rw [hjoin]
    exact append_eq_append_pluralSuffix_iff hb hc hsuffix _

/-- The joined parts `LiveCategoriEs` do not end like categories. -/
theorem resourceTypeName_singular_last_categories :
    "" ∉ split '.' "live.categori.es" ∧
      resourceTypeName "live.categori.es" = "LiveCategori" ++ singular "Es" ∧
      (∀ stem, String.join ((split '.' "live.categori.es").map capitalize) ≠ stem ++ "ies") ∧
      singular "LiveCategories" = "LiveCategory" := by
  have hfull : "" ∉ split '.' "live.categori.es" := by decide
  obtain ⟨front, last, hparts, hname, _, _, hsuffix⟩ := resourceTypeName_singular_last hfull
  have hsplit : split '.' "live.categori.es" = ["live", "categori"] ++ ["es"] := by decide
  obtain ⟨rfl, hlast⟩ := List.append_inj' (hparts.symm.trans hsplit) rfl
  obtain rfl := List.singleton_inj.1 hlast
  have hfront : String.join (["live", "categori"].map capitalize) = "LiveCategori" := by decide
  have hback : capitalize "es" = "Es" := by decide
  rw [hfront, hback] at hname
  refine ⟨hfull, hname, fun stem heq => ?_, by decide⟩
  obtain ⟨core, _, hcore, _⟩ := (hsuffix "ies" (by decide) stem).1 heq
  have hlength : "Es".length = core.length + "ies".length := by
    rw [← String.length_append, ← hcore, hback]
  have hshort : "Es".length < "ies".length := by decide
  omega

end ActivityName

end ApiTypes

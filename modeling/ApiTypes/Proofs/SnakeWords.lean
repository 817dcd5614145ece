import ApiTypes.Text.Words
import ApiTypes.Unicode.CaseForm
import Mathlib.Data.List.Chain

/-!
The underscores that snake case puts into a text. They stand between words, and where two words meet
the text has no underscore of its own. Nothing else tells the snake case from the text in small
letters.
-/
namespace ApiTypes.Text
open Unicode

/-- The text in small letters, character by character. -/
def inSmall (text : List Char) : List Char :=
  text.flatMap lowerChar

/-- The text is cut into words, none of them empty, with no underscore where two words meet. -/
structure IsCut (words : List (List Char)) (text : List Char) : Prop where
  flatten_eq : words.flatten = text
  ne_nil : [] ∉ words
  apart : words.IsChain fun v w => v.getLast? ≠ some '_' ∧ w.head? ≠ some '_'

/-- No two underscores stand side by side. -/
def MarksApart (text : List Char) : Prop :=
  text.IsChain fun c d => ¬ (c = '_' ∧ d = '_')

variable {a c : Char} {next : Option Char} {text front back : List Char}
  {words : List (List Char)}

section small

theorem head?_lowerChar_iff : (lowerChar c).head? = some '_' ↔ c = '_' := by
  constructor
  · exact fun h => underscore_mem_lowerChar_iff.1 (List.mem_of_head? h)
  · rintro rfl
    decide

theorem getLast?_lowerChar_iff : (lowerChar c).getLast? = some '_' ↔ c = '_' := by
  constructor
  · exact fun h => underscore_mem_lowerChar_iff.1 (List.mem_of_getLast? h)
  · rintro rfl
    decide

theorem inSmall_cons : inSmall (c :: text) = lowerChar c ++ inSmall text :=
  List.flatMap_cons

theorem inSmall_eq_nil_iff : inSmall text = [] ↔ text = [] := by
  cases text with
  | nil => simp [inSmall]
  | cons c rest => simp [inSmall_cons, lowerChar_ne_nil]

theorem head?_inSmall_iff : (inSmall text).head? = some '_' ↔ text.head? = some '_' := by
  cases text with
  | nil => simp [inSmall]
  | cons c rest =>
    rw [inSmall_cons, List.head?_append_of_ne_nil _ (lowerChar_ne_nil c), head?_lowerChar_iff]
    simp

theorem getLast?_inSmall_iff : (inSmall text).getLast? = some '_' ↔ text.getLast? = some '_' := by
  obtain rfl | ⟨front, c, rfl⟩ := List.eq_nil_or_concat' text
  · simp [inSmall]
  · rw [inSmall, List.flatMap_append, List.flatMap_singleton,
      List.getLast?_append_of_ne_nil _ (lowerChar_ne_nil c), getLast?_lowerChar_iff]
    simp

/-- In small letters, words are still words. -/
theorem IsCut.inSmall (h : IsCut words text) : IsCut (words.map inSmall) (inSmall text) := by
  constructor
  case flatten_eq =>
    simp only [← h.flatten_eq, Text.inSmall, List.flatMap_def, List.map_flatten,
      List.flatten_flatten, List.map_map]
    rfl
  case ne_nil => simpa [inSmall_eq_nil_iff] using h.ne_nil
  case apart =>
    rw [List.isChain_map]
    exact h.apart.imp fun v w hvw =>
      ⟨mt getLast?_inSmall_iff.1 hvw.1, mt head?_inSmall_iff.1 hvw.2⟩

end small

section snake

/-- No word begins behind an underscore or at one. -/
theorem ne_underscore_of_beginsWord (h : beginsWord a c next = true) : a ≠ '_' ∧ c ≠ '_' := by
  have hcapital : isUppercase '_' = false := by decide
  have hsmall : isLowercase '_' = false := by decide
  constructor
  · rintro rfl
    simp [beginsWord, hsmall] at h
  · rintro rfl
    simp [beginsWord, hcapital] at h

/-- Behind the character `a`, the word to which it belongs is finished, and an underscore stands
before each of the other words. -/
theorem exists_isCut_snakeFrom (a : Char) (text : List Char) :
    ∃ word words, IsCut ((a :: word) :: words) (a :: text) ∧
      snakeFrom (some a) text = inSmall word ++ words.flatMap ('_' :: inSmall ·) := by
  induction text generalizing a with
  | nil => exact ⟨[], [], ⟨by simp, by simp, .singleton _⟩, rfl⟩
  | cons c rest ih =>
    obtain ⟨word, words, hcut, hsnake⟩ := ih c
    have hne : [] ∉ words := fun hmem => hcut.ne_nil (List.mem_cons_of_mem _ hmem)
    have hflatten := hcut.flatten_eq
    rw [snakeFrom, hsnake]
    by_cases hbegins : beginsWord a c rest.head? = true
    -- the word of `a` ends here, and the one that begins at `c` comes before the others
    · obtain ⟨ha, hc⟩ := ne_underscore_of_beginsWord hbegins
      refine ⟨[], (c :: word) :: words, ⟨by simpa using hflatten, by simpa using hne, ?_⟩, ?_⟩
      · exact hcut.apart.cons_cons ⟨by simpa using ha, by simpa using hc⟩
      · simp [hbegins, inSmall]
    -- the word of `a` goes on with that of `c` and has the same end
    · refine ⟨c :: word, words, ⟨by simpa using hflatten, by simpa using hne, ?_⟩, ?_⟩
      · cases words with
        | nil => exact .singleton _
        | cons w words =>
          obtain ⟨hw, hwords⟩ := List.isChain_cons_cons.1 hcut.apart
          exact hwords.cons_cons hw
      · simp [hbegins, inSmall_cons]

/-- The snake case is made of words in small letters with underscores between them. -/
theorem exists_isCut_snakeCase (s : String) :
    ∃ words, IsCut words s.toList ∧
      (snakeCase s).toList = List.intercalate ['_'] (words.map inSmall) := by
  rw [snakeCase, String.toList_ofList]
  cases s.toList with
  | nil => exact ⟨[], ⟨rfl, by simp, .nil⟩, rfl⟩
  | cons a rest =>
    obtain ⟨word, words, hcut, hsnake⟩ := exists_isCut_snakeFrom a rest
    refine ⟨_, hcut, ?_⟩
    rw [snakeFrom, hsnake, List.map_cons, intercalate_cons, inSmall_cons, List.append_assoc,
      List.flatMap_map]

end snake

section marks

theorem marksApart_iff : MarksApart text ↔ ¬ ['_', '_'] <:+: text := by
  rw [MarksApart, List.isChain_iff_forall_rel_of_append_cons_cons]
  constructor
  · rintro h ⟨front, back, rfl⟩
    exact @h '_' '_' front back (by simp) ⟨rfl, rfl⟩
  · rintro h _ _ front back rfl ⟨rfl, rfl⟩
    exact h ⟨front, back, by simp⟩

theorem marksApart_cons_iff :
    MarksApart ('_' :: text) ↔ text.head? ≠ some '_' ∧ MarksApart text := by
  have hmeet : (∀ d ∈ text.head?, ¬ ('_' = '_' ∧ d = '_')) ↔ text.head? ≠ some '_' := by
    cases text <;> simp
  rw [MarksApart, List.isChain_cons, hmeet]
  rfl

theorem marksApart_append_iff (h : front.getLast? ≠ some '_') :
    MarksApart (front ++ back) ↔ MarksApart front ∧ MarksApart back := by
  have hmeet : ∀ c ∈ front.getLast?, ∀ d ∈ back.head?, ¬ (c = '_' ∧ d = '_') := by
    rintro c hc d _ ⟨rfl, _⟩
    exact h hc
  rw [MarksApart, List.isChain_append, and_iff_left hmeet]
  rfl

theorem marksApart_of_not_mem (h : '_' ∉ text) : MarksApart text :=
  marksApart_iff.2 fun hmarks => h (hmarks.subset List.mem_cons_self)

/-- Small letters bring no underscores together. -/
theorem marksApart_inSmall_iff : MarksApart (inSmall text) ↔ MarksApart text := by
  induction text with
  | nil => rfl
  | cons c rest ih =>
    by_cases hc : c = '_'
    · have hlower : lowerChar '_' = ['_'] := by decide
      rw [hc, inSmall_cons, hlower, List.singleton_append, marksApart_cons_iff,
        marksApart_cons_iff, ih, ne_eq, head?_inSmall_iff]
    · have hform : '_' ∉ lowerChar c := mt underscore_mem_lowerChar_iff.1 hc
      have hlast : (lowerChar c).getLast? ≠ some '_' := mt getLast?_lowerChar_iff.1 hc
      have hself : '_' ∉ [c] := by simpa using Ne.symm hc
      rw [inSmall_cons, marksApart_append_iff hlast, ← List.singleton_append,
        marksApart_append_iff (by simpa using hc), ih,
        iff_true_intro (marksApart_of_not_mem hform), iff_true_intro (marksApart_of_not_mem hself)]

/-- An underscore between words comes next to no other one. -/
theorem IsCut.marksApart_intercalate_iff (h : IsCut words text) :
    MarksApart (List.intercalate ['_'] words) ↔ MarksApart text := by
  obtain ⟨rfl, hne, hapart⟩ := h
  induction words with
  | nil => rfl
  | cons w rest ih =>
    cases rest with
    | nil => simp
    | cons v rest =>
      obtain ⟨⟨hw, hv⟩, hrest⟩ := List.isChain_cons_cons.1 hapart
      simp only [List.mem_cons, not_or] at hne
      have hhead : (List.intercalate ['_'] (v :: rest)).head? ≠ some '_' := by
        rwa [intercalate_cons, List.head?_append_of_ne_nil _ (Ne.symm hne.2.1)]
      rw [List.intercalate_cons_cons, List.append_assoc, List.singleton_append,
        marksApart_append_iff hw, marksApart_cons_iff, and_iff_right hhead,
        ih (by simpa using hne.2) hrest, List.flatten_cons (l := w), marksApart_append_iff hw]

end marks

/-- The snake case of a text is the text in small letters with underscores put between its words:
none at the beginning or the end, and none next to another underscore. Without the underscores both
are the same, and two of them stand side by side in the snake case only where they do in the text. -/
theorem snakeCase_only_inserts (s : String) :
    (∃ words, IsCut words s.toList ∧ IsCut (words.map inSmall) (inSmall s.toList) ∧
        (snakeCase s).toList = List.intercalate ['_'] (words.map inSmall)) ∧
      (snakeCase s).toList.filter (· ≠ '_') = (inSmall s.toList).filter (· ≠ '_') ∧
      (['_', '_'] <:+: (snakeCase s).toList ↔ ['_', '_'] <:+: s.toList) := by
  obtain ⟨words, hcut, hsnake⟩ := exists_isCut_snakeCase s
  refine ⟨⟨words, hcut, hcut.inSmall, hsnake⟩, ?_, ?_⟩
  · rw [hsnake, filter_intercalate, ← hcut.inSmall.flatten_eq, List.filter_flatten,
      List.flatMap_def]
  · rw [← not_iff_not, ← marksApart_iff, ← marksApart_iff, hsnake,
      hcut.inSmall.marksApart_intercalate_iff, marksApart_inSmall_iff]

example : snakeCase "\u0130d__etagURLs_3D" = "i\u0307d__etag_ur_ls_3_d" := by
  decide

end ApiTypes.Text

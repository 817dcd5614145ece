import ApiTypes.Text.DocLines
import Mathlib.Data.List.DropRight

/-!
The comment lines of a text made of sections. Where every section begins and ends with a visible
character, the lines are those of the sections, and one empty line parts each section from the next.
-/
namespace ApiTypes.Text
open Unicode

/-- The text begins and ends with a character that is not blank. -/
structure IsSolid (text : List Char) : Prop where
  first : text.head?.map isBlank = some false
  last : text.getLast?.map isBlank = some false

/-- The lines begin and end with a line that is not empty. -/
structure IsBlock (lines : List String) : Prop where
  first : ∃ line ∈ lines.head?, line ≠ ""
  last : ∃ line ∈ lines.getLast?, line ≠ ""

variable {c : Char} {text line : List Char} {s t : String} {texts : List String}

/-- What stands between solid texts may be anything. -/
theorem IsSolid.append (hs : IsSolid s.toList) (ht : IsSolid t.toList) (between : String) :
    IsSolid (s ++ between ++ t).toList := by
  obtain ⟨c, hc, hfirst⟩ := Option.map_eq_some_iff.1 hs.first
  obtain ⟨d, hd, hlast⟩ := Option.map_eq_some_iff.1 ht.last
  simp only [String.toList_append]
  constructor
  · simp [List.head?_append, hc, hfirst]
  · simp [List.getLast?_append, hd, hlast]

theorem trimEnd_eq_rdropWhile (text : List Char) : trimEnd text = text.rdropWhile isBlank :=
  rfl

theorem docLine_ne_empty (hc : c ∈ line) (h : isBlank c = false) : docLine line ≠ "" := by
  intro hline
  unfold docLine at hline
  split at hline
  next hnil =>
    rw [trimEnd_eq_rdropWhile, List.rdropWhile_eq_nil_iff] at hnil
    rw [hnil c hc] at h
    cases h
  next => simp [← String.toList_inj] at hline

/-- What is left of a text between the blanks at its ends is solid. -/
theorem isSolid_trim (h : trim text ≠ []) : IsSolid (trim text) := by
  rw [trim, trimEnd_eq_rdropWhile] at h ⊢
  constructor
  · obtain ⟨c, rest, heq⟩ := List.exists_cons_of_ne_nil h
    obtain ⟨after, hprefix⟩ := List.rdropWhile_prefix isBlank (l := text.dropWhile isBlank)
    have hfirst : text.dropWhile isBlank = c :: (rest ++ after) := by
      rw [← hprefix, heq, List.cons_append]
    have hblank := List.head_dropWhile_not isBlank (by simp [hfirst] : text.dropWhile isBlank ≠ [])
    rw [heq, List.head?_cons, Option.map_some]
    simpa [hfirst] using hblank
  · rw [List.getLast?_eq_some_getLast h]
    simpa using List.rdropWhile_last_not isBlank _ h

/-- Trimming takes nothing away but blanks at the ends. -/
theorem exists_eq_append_trim (text : List Char) :
    ∃ before after, text = before ++ trim text ++ after ∧
      ∀ c ∈ before ++ after, isBlank c = true := by
  refine ⟨text.takeWhile isBlank, (text.dropWhile isBlank).rtakeWhile isBlank, ?_, fun c hc => ?_⟩
  · rw [trim, trimEnd_eq_rdropWhile, List.append_assoc, List.rdropWhile_append_rtakeWhile,
      List.takeWhile_append_dropWhile]
  · rcases List.mem_append.1 hc with hc | hc
    · exact List.mem_takeWhile_imp hc
    · exact List.mem_rtakeWhile_imp hc

theorem ne_newline_of_visible (h : isBlank c = false) : c ≠ '\n' := by
  rintro rfl
  revert h
  decide

/-- The last line of a text that ends with a visible character ends with it too. -/
theorem IsSolid.exists_pieces (h : IsSolid text) :
    ∃ before last c, pieces '\n' text = before ++ [last ++ [c]] ∧ isBlank c = false := by
  obtain ⟨c, hlast, hc⟩ := Option.map_eq_some_iff.1 h.last
  obtain ⟨front, rfl⟩ := List.getLast?_eq_some_iff.1 hlast
  obtain ⟨before, last, first, rest, _, hsingle, happend⟩ := exists_pieces_append '\n' front [c]
  rw [pieces_of_not_mem (by simpa using (ne_newline_of_visible hc).symm)] at hsingle
  cases hsingle
  exact ⟨before, last, c, happend, hc⟩

theorem IsSolid.lines_eq (h : IsSolid text) : lines text = pieces '\n' text := by
  obtain ⟨before, last, c, hpieces, _⟩ := h.exists_pieces
  rw [lines, if_neg (by simp [hpieces])]

/-- The lines of a solid text begin and end with lines that are not empty. -/
theorem IsSolid.isBlock (h : IsSolid s.toList) : IsBlock (docLines s) := by
  rw [docLines, h.lines_eq]
  constructor
  · obtain ⟨c, hfirst, hc⟩ := Option.map_eq_some_iff.1 h.first
    obtain ⟨rest, htext⟩ := List.head?_eq_some_iff.1 hfirst
    obtain ⟨p, ps, hp⟩ := List.exists_cons_of_ne_nil (pieces_ne_nil '\n' rest)
    refine ⟨docLine (c :: p), ?_, docLine_ne_empty List.mem_cons_self hc⟩
    simp [htext, pieces, ne_newline_of_visible hc, hp]
  · obtain ⟨before, last, c, hpieces, hc⟩ := h.exists_pieces
    exact ⟨docLine (last ++ [c]), by simp [hpieces], docLine_ne_empty (by simp) hc⟩

/-- Two line feeds behind a solid text are an empty line. -/
theorem docLines_append (h : IsSolid s.toList) (t : String) :
    docLines (s ++ "\n\n" ++ t) = docLines s ++ "" :: docLines t := by
  have htext : (s ++ "\n\n" ++ t).toList = s.toList ++ '\n' :: '\n' :: t.toList := by simp
  have hpieces : pieces '\n' (s ++ "\n\n" ++ t).toList =
      pieces '\n' s.toList ++ [] :: pieces '\n' t.toList := by
    rw [htext, pieces_append_sep_cons]
    rfl
  have hlines : lines (s ++ "\n\n" ++ t).toList = lines s.toList ++ [] :: lines t.toList := by
    obtain ⟨p, ps, hp⟩ := List.exists_cons_of_ne_nil (pieces_ne_nil '\n' t.toList)
    rw [h.lines_eq, lines, hpieces, lines, hp, List.getLast?_append_cons, List.getLast?_cons_cons]
    split
    · rw [List.dropLast_append_of_ne_nil (List.cons_ne_nil _ _), List.dropLast_cons_cons]
    · rfl
  rw [docLines, hlines]
  simp [docLines, docLine, trimEnd_eq_rdropWhile]

/-- Solid texts with two line feeds between them keep their lines, with an empty one between. -/
theorem docLines_intercalate (h : ∀ s ∈ texts, IsSolid s.toList) :
    docLines ("\n\n".intercalate texts) = List.intercalate [""] (texts.map docLines) := by
  induction texts with
  | nil => rfl
  | cons s texts ih =>
    obtain ⟨hs, htexts⟩ := List.forall_mem_cons.1 h
    cases texts with
    | nil => simp [List.intercalate]
    | cons t texts =>
      rw [String.intercalate_cons_cons, docLines_append hs, ih htexts]
      simp [List.intercalate]

/-- One more text adds its lines, behind an empty one. -/
theorem docLines_intercalate_concat (hne : texts ≠ []) (h : ∀ s ∈ texts, IsSolid s.toList)
    (last : String) :
    docLines ("\n\n".intercalate (texts ++ [last])) =
      docLines ("\n\n".intercalate texts) ++ "" :: docLines last := by
  induction texts with
  | nil => exact absurd rfl hne
  | cons s texts ih =>
    obtain ⟨hs, htexts⟩ := List.forall_mem_cons.1 h
    cases texts with
    | nil =>
      rw [List.singleton_append, String.intercalate_cons_cons, String.intercalate_singleton,
        String.intercalate_singleton, docLines_append hs]
    | cons t texts =>
      rw [List.cons_append, List.cons_append, String.intercalate_cons_cons, docLines_append hs,
        ← List.cons_append, ih (List.cons_ne_nil _ _) htexts, String.intercalate_cons_cons,
        docLines_append hs, List.append_assoc]
      rfl

end ApiTypes.Text

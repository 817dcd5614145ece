import ApiTypes.Proofs.DocSections
import ApiTypes.Proofs.ExactName
import ApiTypes.Text.Words
import ApiTypes.Unicode.CaseForm

/-!
Carriage returns in documentation. A text is cut into lines at its line feeds, and each line loses
the blanks at its end, so that a carriage return stays where something visible follows it in its
line, and nowhere else.
-/
namespace ApiTypes.Text
open Unicode

/-- Whether a visible character comes before the next line feed. -/
def showsMore : List Char → Bool
  | [] => false
  | c :: rest => c != '\n' && (!isBlank c || showsMore rest)

/-- Whether some carriage return has a visible character after it in the same line. -/
def hasStrayReturn : List Char → Bool
  | [] => false
  | c :: rest => c == '\r' && showsMore rest || hasStrayReturn rest

variable {c : Char} {a b text line x y vs : List Char} {texts : List (List Char)} {s : String}

theorem showsMore_append_newline (a b : List Char) : showsMore (a ++ '\n' :: b) = showsMore a := by
  induction a with
  | nil => rfl
  | cons c a ih => rw [List.cons_append, showsMore, showsMore, ih]

/-- A line feed parts what stands before it from what stands after it. -/
theorem hasStrayReturn_append_newline (a b : List Char) :
    hasStrayReturn (a ++ '\n' :: b) = (hasStrayReturn a || hasStrayReturn b) := by
  induction a with
  | nil => rfl
  | cons c a ih =>
    rw [List.cons_append, hasStrayReturn, hasStrayReturn, ih, showsMore_append_newline,
      Bool.or_assoc]

theorem showsMore_append_visible (h : isBlank c = false) (a b : List Char) :
    showsMore (a ++ c :: b) = showsMore (a ++ [c]) := by
  induction a with
  | nil => simp [showsMore, h]
  | cons d a ih => rw [List.cons_append, List.cons_append, showsMore, showsMore, ih]

theorem forall_of_all_visible (h : vs.all (!isBlank ·) = true) : ∀ v ∈ vs, isBlank v = false := by
  simpa using h

/-- A visible character is all that counts for what stands before it. -/
theorem hasStrayReturn_append_visible (h : isBlank c = false) (a b : List Char) :
    hasStrayReturn (a ++ c :: b) = (hasStrayReturn (a ++ [c]) || hasStrayReturn b) := by
  have hreturn : (c == '\r') = false := by
    rw [beq_eq_false_iff_ne]
    rintro rfl
    revert h
    decide
  induction a with
  | nil => simp [hasStrayReturn, hreturn]
  | cons d a ih =>
    rw [List.cons_append, List.cons_append, hasStrayReturn, hasStrayReturn, ih,
      showsMore_append_visible h, Bool.or_assoc]

theorem hasStrayReturn_append_of_not_mem (h : '\r' ∉ a) (b : List Char) :
    hasStrayReturn (a ++ b) = hasStrayReturn b := by
  induction a with
  | nil => rfl
  | cons c a ih =>
    simp only [List.mem_cons, not_or] at h
    rw [List.cons_append, hasStrayReturn, ih h.2]
    simp [beq_eq_false_iff_ne.2 (Ne.symm h.1)]

theorem hasStrayReturn_of_not_mem (h : '\r' ∉ a) : hasStrayReturn a = false := by
  simpa [hasStrayReturn] using hasStrayReturn_append_of_not_mem h []

theorem hasStrayReturn_of_blank (h : ∀ c ∈ text, isBlank c = true) :
    hasStrayReturn text = false := by
  have hmore : ∀ {text : List Char}, (∀ c ∈ text, isBlank c = true) → showsMore text = false := by
    intro text h
    induction text with
    | nil => rfl
    | cons c rest ih =>
      obtain ⟨hc, hrest⟩ := List.forall_mem_cons.1 h
      simp [showsMore, hc, ih hrest]
  induction text with
  | nil => rfl
  | cons c rest ih =>
    obtain ⟨_, hrest⟩ := List.forall_mem_cons.1 h
    simp [hasStrayReturn, hmore hrest, ih hrest]

theorem hasStrayReturn_replicate_append (n : Nat) (b : List Char) :
    hasStrayReturn (List.replicate n '\n' ++ b) = hasStrayReturn b := by
  refine hasStrayReturn_append_of_not_mem (fun h => ?_) b
  exact absurd (List.eq_of_mem_replicate h) (by decide)

/-- Texts with line feeds between them keep their stray returns and get no others. -/
theorem hasStrayReturn_intercalate (n : Nat) (texts : List (List Char)) :
    hasStrayReturn (List.intercalate (List.replicate (n + 1) '\n') texts) =
      texts.any hasStrayReturn := by
  induction texts with
  | nil => rfl
  | cons text rest ih =>
    cases rest with
    | nil => simp [List.intercalate]
    | cons next rest =>
      rw [List.intercalate_cons_cons, List.replicate_succ, List.append_assoc, List.cons_append,
        hasStrayReturn_append_newline, hasStrayReturn_replicate_append, ← List.replicate_succ, ih]
      rfl

theorem trimEnd_cons (c : Char) (rest : List Char) :
    trimEnd (c :: rest) =
      if (trimEnd rest).isEmpty && isBlank c then [] else c :: trimEnd rest := by
  simp only [trimEnd, dropEndWhile, List.reverse_cons, List.dropWhile_append, List.isEmpty_reverse]
  by_cases h : (rest.reverse.dropWhile isBlank).isEmpty
  · have hnil : rest.reverse.dropWhile isBlank = [] := List.isEmpty_iff.1 h
    cases hc : isBlank c <;> simp [hnil, hc]
  · simp [h]

/-- What is left of a line is what shows. -/
theorem isEmpty_trimEnd (h : '\n' ∉ line) : (trimEnd line).isEmpty = !showsMore line := by
  induction line with
  | nil => rfl
  | cons c rest ih =>
    simp only [List.mem_cons, not_or] at h
    have hc : (c != '\n') = true := bne_iff_ne.2 (Ne.symm h.1)
    rw [trimEnd_cons, ih h.2, showsMore, hc]
    cases isBlank c <;> cases showsMore rest <;> rfl

theorem mem_trimEnd_iff (h : '\n' ∉ line) : '\r' ∈ trimEnd line ↔ hasStrayReturn line = true := by
  induction line with
  | nil => simp [trimEnd, dropEndWhile, hasStrayReturn]
  | cons c rest ih =>
    simp only [List.mem_cons, not_or] at h
    have hempty := isEmpty_trimEnd h.2
    rw [trimEnd_cons, hempty, hasStrayReturn, Bool.or_eq_true, ← ih h.2]
    cases hmore : showsMore rest with
    | true =>
      rw [Bool.not_true, Bool.false_and, if_neg Bool.false_ne_true, List.mem_cons, Bool.and_true,
        beq_iff_eq, eq_comm]
    | false =>
      have hnil : trimEnd rest = [] := by simpa [hmore] using hempty
      by_cases hc : c = '\r'
      · subst hc
        have hblank : isBlank '\r' = true := by decide
        simp [hnil, hblank]
      · cases isBlank c <;> simp [hnil, Ne.symm hc]

theorem mem_docLine_iff (hc : c ≠ ' ') : c ∈ (docLine line).toList ↔ c ∈ trimEnd line := by
  unfold docLine
  split
  next hnil => simp [hnil]
  next hkept => simp [hc]

/-- Every line is a piece, and a piece that is no line is empty. -/
theorem exists_mem_lines_iff {p : List Char → Prop} (hp : ¬ p []) :
    (∃ line ∈ lines text, p line) ↔ ∃ piece ∈ pieces '\n' text, p piece := by
  unfold lines
  dsimp only
  split
  next hlast =>
    obtain ⟨front, hfront⟩ := List.getLast?_eq_some_iff.1 hlast
    rw [hfront, List.dropLast_concat]
    simp [or_and_right, exists_or, hp]
  next => rfl

theorem newline_not_mem_docLines (h : s ∈ docLines t) : '\n' ∉ s.toList := by
  obtain ⟨line, hline, rfl⟩ := List.mem_map.1 h
  have hpiece : '\n' ∉ line := by
    unfold lines at hline
    dsimp only at hline
    split at hline
    · exact not_mem_pieces (List.dropLast_subset _ hline)
    · exact not_mem_pieces hline
  rw [mem_docLine_iff (by decide), trimEnd_eq_rdropWhile]
  exact fun hmem => hpiece ((List.rdropWhile_prefix isBlank line).subset hmem)

/-- A carriage return gets into the lines exactly where it is a stray one. -/
theorem exists_return_mem_docLines_iff (t : String) :
    (∃ s ∈ docLines t, '\r' ∈ s.toList) ↔ hasStrayReturn t.toList = true := by
  have htext : hasStrayReturn t.toList = (pieces '\n' t.toList).any hasStrayReturn := by
    conv_lhs => rw [← intercalate_pieces '\n' t.toList]
    exact hasStrayReturn_intercalate 0 _
  have hempty : ¬ '\r' ∈ (docLine []).toList := by decide
  simp only [docLines, List.mem_map, exists_exists_and_eq_and]
  rw [exists_mem_lines_iff (p := fun line => '\r' ∈ (docLine line).toList) hempty, htext,
    List.any_eq_true]
  refine exists_congr fun piece => and_congr_right fun hpiece => ?_
  rw [mem_docLine_iff (by decide), mem_trimEnd_iff (not_mem_pieces hpiece)]

/-- The second text comes from the first one by changes to its visible characters: each may become
any number of visible characters, and each blank stays. -/
inductive Fades : List Char → List Char → Prop where
  | nil : Fades [] []
  | blank {c : Char} {x y : List Char} (h : isBlank c = true) (rest : Fades x y) :
      Fades (c :: x) (c :: y)
  | visible {c : Char} {vs x y : List Char} (h : isBlank c = false)
      (hvs : ∀ v ∈ vs, isBlank v = false) (rest : Fades x y) : Fades (c :: x) (vs ++ y)

namespace Fades

theorem dropped (h : isBlank c = false) (rest : Fades x y) : Fades (c :: x) y :=
  @visible c [] x y h nofun rest

theorem refl (x : List Char) : Fades x x := by
  induction x with
  | nil => exact .nil
  | cons c x ih =>
    cases hc : isBlank c with
    | true => exact .blank hc ih
    | false =>
      have hvisible : ∀ v ∈ [c], isBlank v = false := by simpa using hc
      exact .visible hc hvisible ih

theorem append (h : Fades x y) (h' : Fades a b) : Fades (x ++ a) (y ++ b) := by
  induction h with
  | nil => exact h'
  | blank hc _ ih => exact .blank hc ih
  | visible hc hvs _ ih =>
    rw [List.append_assoc]
    exact .visible hc hvs ih

theorem showsMore_of_showsMore (h : Fades x y) (hy : showsMore y = true) : showsMore x = true := by
  induction h with
  | nil => exact hy
  | blank hc _ ih =>
    simp only [showsMore, Bool.and_eq_true, Bool.or_eq_true] at hy ⊢
    exact ⟨hy.1, hy.2.imp_right ih⟩
  | visible hc _ _ _ => simp [showsMore, hc, ne_newline_of_visible hc]

/-- Changes to visible characters bring no stray returns. -/
theorem hasStrayReturn_of_hasStrayReturn (h : Fades x y) (hy : hasStrayReturn y = true) :
    hasStrayReturn x = true := by
  induction h with
  | nil => exact hy
  | blank hc hrest ih =>
    simp only [hasStrayReturn, Bool.or_eq_true, Bool.and_eq_true] at hy ⊢
    exact hy.imp (fun hreturn => ⟨hreturn.1, hrest.showsMore_of_showsMore hreturn.2⟩) ih
  | visible _ hvs _ ih =>
    have hreturn : '\r' ∉ _ := fun hmem => absurd (hvs _ hmem) (by decide)
    rw [hasStrayReturn_append_of_not_mem hreturn] at hy
    rw [hasStrayReturn, ih hy, Bool.or_true]

end Fades

theorem isSurrounding_of_isBlank (h : isBlank c = true) : Ident.isSurrounding c = true := by
  simp [Ident.isSurrounding, Ident.isSourceBlank, h]

/-- A blank has no capital form of its own. -/
theorem upperChar_of_isBlank (h : isBlank c = true) : upperChar c = [c] := by
  have hsame : (upperChar c != [c]) = false :=
    Ident.eq_false_of_isSurrounding (p := fun c => upperChar c != [c]) (by decide +kernel)
      (isSurrounding_of_isBlank h)
  simpa using hsame

/-- Nothing visible becomes a blank when it is made a capital. -/
theorem not_isBlank_of_mem_upperChar (h : isBlank c = false) {v : Char} (hv : v ∈ upperChar c) :
    isBlank v = false := by
  unfold upperChar at hv
  split at hv
  next hascii =>
    have htable : ∀ n < 0x80, isBlank (Char.ofNat n) = false →
        isBlank (Char.ofNat n).toUpper = false := by
      decide +kernel
    have hc := htable c.toNat hascii
    rw [Char.ofNat_toNat] at hc
    rw [List.mem_singleton.1 hv]
    exact hc h
  next =>
    exact eq_false_of_mem_mapCase (fun _ hc => Ident.toNat_mem_surroundings
      (isSurrounding_of_isBlank hc)) (by decide) (by decide +kernel) (by decide +kernel) h hv

namespace Fades

theorem capitalize (s : String) : Fades s.toList (capitalize s).toList := by
  unfold Text.capitalize
  split
  next hnil =>
    rw [hnil]
    exact .nil
  next c rest hs =>
    rw [hs, String.toList_ofList]
    cases hc : isBlank c with
    | true =>
      rw [upperChar_of_isBlank hc]
      exact .refl (c :: rest)
    | false => exact .visible hc (fun v hv => not_isBlank_of_mem_upperChar hc hv) (.refl rest)

/-- The singular differs from the plural in letters. -/
theorem singular (s : String) : Fades s.toList (singular s).toList := by
  have hletter {c : Char} (hc : isBlank c = false) : Fades [c] [] :=
    .dropped hc .nil
  unfold Text.singular
  split
  next stem hstem =>
    have hend : Fades ['i', 'e', 's'] ['y'] :=
      @visible 'i' ['y'] ['e', 's'] [] (by decide) (forall_of_all_visible (by decide))
        (.dropped (by decide) (hletter (by decide)))
    rw [cutEnd?_eq_some_iff.1 hstem, String.toList_ofList]
    exact (Fades.refl stem).append hend
  next =>
    split
    next stem hstem =>
      have hend : Fades ['s'] [] := hletter (by decide)
      rw [cutEnd?_eq_some_iff.1 hstem, String.toList_ofList]
      simpa using (Fades.refl stem).append hend
    next => exact .refl s.toList

/-- Pieces that are made capitals and joined without their separator. -/
theorem join_capitalize {sep : Char} (h : isBlank sep = false) (ps : List (List Char)) :
    Fades (List.intercalate [sep] ps)
      (String.join ((ps.map String.ofList).map Text.capitalize)).toList := by
  induction ps with
  | nil => exact .nil
  | cons p ps ih =>
    have hp : Fades p (Text.capitalize (String.ofList p)).toList := by
      simpa using Fades.capitalize (String.ofList p)
    cases ps with
    | nil => simpa [List.intercalate, String.join_cons] using hp
    | cons q qs =>
      rw [List.intercalate_cons_cons, List.map_cons, List.map_cons, String.join_cons,
        String.toList_append, List.append_assoc]
      exact hp.append (.dropped h ih)

end Fades

end ApiTypes.Text

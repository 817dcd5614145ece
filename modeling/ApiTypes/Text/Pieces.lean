/-! Text cut into pieces at a separator. -/
namespace ApiTypes.Text

/-- The pieces between the separators; there is one more piece than separators. -/
def pieces (sep : Char) : List Char → List (List Char)
  | [] => [[]]
  | c :: rest =>
    if c = sep then [] :: pieces sep rest
    else
      match pieces sep rest with
      | [] => [[c]]
      | p :: ps => (c :: p) :: ps

/-- The pieces of a string. -/
def split (sep : Char) (s : String) : List String :=
  (pieces sep s.toList).map String.ofList

/-- The lines of a text: what stands between its line feeds; a last empty piece is no line. -/
def lines (text : List Char) : List (List Char) :=
  let all := pieces '\n' text
  if all.getLast? = some [] then all.dropLast else all

/-- Cuts a text at its first separator. -/
def cutFirst? (sep : Char) : List Char → Option (List Char × List Char)
  | [] => none
  | c :: rest =>
    if c = sep then some ([], rest)
    else (cutFirst? sep rest).map fun (front, back) => (c :: front, back)

/-- Cuts a text at its last separator, which is the first one from the other end. -/
def cutLast? (sep : Char) (text : List Char) : Option (List Char × List Char) :=
  (cutFirst? sep text.reverse).map fun (back, front) => (front.reverse, back.reverse)

/-- Cuts `suffix` off the end, if it is there. -/
def cutEnd? (suffix text : List Char) : Option (List Char) :=
  if suffix.isSuffixOf text then some (text.take (text.length - suffix.length)) else none

theorem pieces_ne_nil (sep : Char) (cs : List Char) : pieces sep cs ≠ [] := by
  induction cs with
  | nil => simp [pieces]
  | cons c rest ih =>
    unfold pieces
    split
    · simp
    · split <;> simp

/-- A text without the separator is its own only piece. -/
theorem pieces_of_not_mem {sep : Char} {cs : List Char} (h : sep ∉ cs) : pieces sep cs = [cs] := by
  induction cs with
  | nil => rfl
  | cons c rest ih =>
    simp only [List.mem_cons, not_or] at h
    simp [pieces, Ne.symm h.1, ih h.2]

/-- The first separator ends the first piece. -/
theorem pieces_append_cons {sep : Char} {front rest : List Char} (h : sep ∉ front) :
    pieces sep (front ++ sep :: rest) = front :: pieces sep rest := by
  induction front with
  | nil => simp [pieces]
  | cons c front ih =>
    simp only [List.mem_cons, not_or] at h
    simp [pieces, Ne.symm h.1, ih h.2]

/-- Where two texts meet, the last piece of the one goes on in the first piece of the other. -/
theorem exists_pieces_append (sep : Char) (a b : List Char) :
    ∃ front last first rest, pieces sep a = front ++ [last] ∧ pieces sep b = first :: rest ∧
      pieces sep (a ++ b) = front ++ (last ++ first) :: rest := by
  obtain ⟨first, rest, hb⟩ := List.exists_cons_of_ne_nil (pieces_ne_nil sep b)
  induction a with
  | nil => exact ⟨[], [], first, rest, rfl, hb, hb⟩
  | cons c a ih =>
    obtain ⟨front, last, _, _, ha, hb', hab⟩ := ih
    rw [hb] at hb'
    cases hb'
    by_cases hc : c = sep
    · exact ⟨[] :: front, last, first, rest, by simp [pieces, hc, ha], hb, by
        simp [pieces, hc, hab]⟩
    · cases front with
      | nil => exact ⟨[], c :: last, first, rest, by simp [pieces, hc, ha], hb, by
          simp [pieces, hc, hab]⟩
      | cons p front => exact ⟨(c :: p) :: front, last, first, rest, by simp [pieces, hc, ha], hb,
          by simp [pieces, hc, hab]⟩

/-- A separator between two texts keeps their pieces apart. -/
theorem pieces_append_sep_cons (sep : Char) (a b : List Char) :
    pieces sep (a ++ sep :: b) = pieces sep a ++ pieces sep b := by
  obtain ⟨front, last, first, rest, ha, hb, hab⟩ := exists_pieces_append sep a (sep :: b)
  rw [pieces, if_pos rfl, List.cons.injEq] at hb
  obtain ⟨rfl, rfl⟩ := hb
  rw [hab, ha]
  simp

/-- The pieces with separators between them are the text again. -/
theorem intercalate_pieces (sep : Char) (cs : List Char) :
    List.intercalate [sep] (pieces sep cs) = cs := by
  induction cs with
  | nil => rfl
  | cons c rest ih =>
    obtain ⟨p, ps, hp⟩ := List.exists_cons_of_ne_nil (pieces_ne_nil sep rest)
    rw [hp] at ih
    unfold pieces
    split
    · next hc =>
      rw [hp, ← ih, hc]
      simp [List.intercalate]
    · rw [hp]
      cases ps with
      | nil => simpa [List.intercalate] using congrArg (c :: ·) ih
      | cons q qs => simpa [List.intercalate] using congrArg (c :: ·) ih

/-- A separator stands in front of each piece but the first. -/
theorem intercalate_cons (sep : Char) (p : List Char) (ps : List (List Char)) :
    List.intercalate [sep] (p :: ps) = p ++ ps.flatMap (sep :: ·) := by
  induction ps generalizing p with
  | nil => simp
  | cons q qs ih =>
    rw [List.intercalate_cons_cons, ih, List.flatMap_cons]
    simp

/-- Without the separator, a text is what its pieces are without it. -/
theorem filter_intercalate (sep : Char) (ps : List (List Char)) :
    (List.intercalate [sep] ps).filter (· ≠ sep) = ps.flatMap (·.filter (· ≠ sep)) := by
  induction ps with
  | nil => rfl
  | cons p ps ih =>
    cases ps with
    | nil => simp
    | cons q qs =>
      rw [List.intercalate_cons_cons, List.filter_append, List.filter_append, ih]
      simp

/-- Pieces that are free of the separator come back from the text they make up. -/
theorem pieces_intercalate {sep : Char} {ps : List (List Char)} (hne : ps ≠ [])
    (h : ∀ p ∈ ps, sep ∉ p) : pieces sep (List.intercalate [sep] ps) = ps := by
  induction ps with
  | nil => exact absurd rfl hne
  | cons p ps ih =>
    obtain ⟨hp, hps⟩ := List.forall_mem_cons.1 h
    cases ps with
    | nil => simpa [List.intercalate] using pieces_of_not_mem hp
    | cons q qs =>
      rw [List.intercalate_cons_cons, List.append_assoc, List.singleton_append,
        pieces_append_cons hp, ih (List.cons_ne_nil q qs) hps]

section cuts
variable {sep : Char} {text front back : List Char}

/-- What stands in front of the first separator is free of it. -/
theorem cutFirst?_eq_some_iff :
    cutFirst? sep text = some (front, back) ↔ text = front ++ sep :: back ∧ sep ∉ front := by
  induction text generalizing front with
  | nil => simp [cutFirst?]
  | cons c rest ih =>
    by_cases hc : c = sep
    · cases front with
      | nil => simp [cutFirst?, hc]
      | cons d front =>
        simp only [cutFirst?, hc, if_true, List.cons_append, List.cons.injEq, List.mem_cons, not_or]
        exact ⟨nofun, fun ⟨⟨hd, _⟩, hne, _⟩ => absurd hd hne⟩
    · cases front with
      | nil => simp [cutFirst?, hc]
      | cons d front =>
        simp only [cutFirst?, hc, if_false, Option.map_eq_some_iff, Prod.exists, Prod.mk.injEq,
          List.cons.injEq, List.cons_append, List.mem_cons, not_or]
        constructor
        · rintro ⟨front', back', hcut, ⟨rfl, rfl⟩, rfl⟩
          obtain ⟨hrest, hfront⟩ := ih.1 hcut
          exact ⟨⟨rfl, hrest⟩, Ne.symm hc, hfront⟩
        · rintro ⟨⟨rfl, hrest⟩, _, hfront⟩
          exact ⟨front, back, ih.2 ⟨hrest, hfront⟩, ⟨rfl, rfl⟩, rfl⟩

/-- What stands behind the last separator is free of it. -/
theorem cutLast?_eq_some_iff :
    cutLast? sep text = some (front, back) ↔ text = front ++ sep :: back ∧ sep ∉ back := by
  have hreverse :
      text.reverse = back.reverse ++ sep :: front.reverse ↔ text = front ++ sep :: back := by
    rw [← List.reverse_inj, List.reverse_reverse]
    simp
  simp only [cutLast?, Option.map_eq_some_iff, Prod.exists, Prod.mk.injEq]
  constructor
  · rintro ⟨back', front', hcut, rfl, rfl⟩
    obtain ⟨htext, hback⟩ := cutFirst?_eq_some_iff.1 hcut
    simp only [List.reverse_reverse] at hreverse
    exact ⟨hreverse.1 htext, by simpa using hback⟩
  · rintro ⟨htext, hback⟩
    refine ⟨back.reverse, front.reverse, ?_, by simp, by simp⟩
    exact cutFirst?_eq_some_iff.2 ⟨hreverse.2 htext, by simpa using hback⟩

end cuts

/-- A text ends in the suffix that was cut off it. -/
theorem cutEnd?_eq_some_iff {suffix text stem : List Char} :
    cutEnd? suffix text = some stem ↔ text = stem ++ suffix := by
  unfold cutEnd?
  constructor
  · intro h
    split at h
    · next hs =>
      obtain ⟨front, rfl⟩ := List.isSuffixOf_iff_suffix.1 hs
      simp at h
      rw [h]
    · simp at h
  · rintro rfl
    simp

/-- A suffix without the character `c` ends a text behind it or not at all. -/
theorem append_cons_eq_append_iff {c : Char} {front back stem suffix : List Char}
    (h : c ∉ suffix) :
    front ++ c :: back = stem ++ suffix ↔
      ∃ core, back = core ++ suffix ∧ stem = front ++ c :: core := by
  constructor
  · intro heq
    rcases List.append_eq_append_iff.1 heq with ⟨core, rfl, hback⟩ | ⟨between, _, rfl⟩
    · cases core with
      | nil =>
        rw [List.nil_append] at hback
        exact absurd (hback ▸ List.mem_cons_self) h
      | cons d core =>
        rw [List.cons_append, List.cons.injEq] at hback
        obtain ⟨rfl, rfl⟩ := hback
        exact ⟨core, rfl, rfl⟩
    · exact absurd (List.mem_append_right between List.mem_cons_self) h
  · rintro ⟨core, rfl, rfl⟩
    simp

theorem cutEnd?_append_cons {c : Char} {suffix : List Char} (h : c ∉ suffix)
    (front back : List Char) :
    cutEnd? suffix (front ++ c :: back) = (cutEnd? suffix back).map (front ++ c :: ·) := by
  ext stem
  rw [cutEnd?_eq_some_iff, append_cons_eq_append_iff h, Option.map_eq_some_iff]
  exact exists_congr fun core => and_congr cutEnd?_eq_some_iff.symm eq_comm

/-- Each piece is free of the separator. -/
theorem not_mem_pieces {sep : Char} {cs p : List Char} (h : p ∈ pieces sep cs) : sep ∉ p := by
  induction cs generalizing p with
  | nil => simp [pieces] at h; simp [h]
  | cons c rest ih =>
    unfold pieces at h
    split at h
    · simp only [List.mem_cons] at h
      obtain rfl | h := h
      · simp
      · exact ih h
    · next hc =>
      split at h
      · simp only [List.mem_singleton] at h
        simpa [h] using Ne.symm hc
      · next q qs hq =>
        simp only [List.mem_cons] at h
        obtain rfl | h := h
        · have := ih (p := q) (by simp [hq])
          simp [this, Ne.symm hc]
        · exact ih (by simp [hq, h])

section split
variable {sep : Char} {s mark part : String} {parts others : List String}

theorem split_ne_nil (sep : Char) (s : String) : split sep s ≠ [] := by
  simpa [split] using pieces_ne_nil sep s.toList

theorem not_mem_of_mem_split (h : part ∈ split sep s) : sep ∉ part.toList := by
  obtain ⟨piece, hpiece, rfl⟩ := List.mem_map.1 h
  rw [String.toList_ofList]
  exact not_mem_pieces hpiece

theorem split_of_not_mem (h : sep ∉ s.toList) : split sep s = [s] := by
  rw [split, pieces_of_not_mem h, List.map_singleton, String.ofList_toList]

theorem intercalate_eq_empty_iff (h : ∀ p ∈ parts, p ≠ "") :
    mark.intercalate parts = "" ↔ parts = [] := by
  cases parts with
  | nil => simp
  | cons p rest =>
    have hp := h p List.mem_cons_self
    cases rest with
    | nil => simpa using hp
    | cons q rest => simp [String.intercalate_cons_cons, hp]

variable (hmark : mark.toList = [sep])
include hmark

theorem split_append_mark (a b : String) :
    split sep (a ++ mark ++ b) = split sep a ++ split sep b := by
  rw [split, String.toList_append, String.toList_append, hmark, List.append_assoc,
    List.singleton_append, pieces_append_sep_cons, List.map_append]
  rfl

theorem split_intercalate (hne : parts ≠ []) (h : ∀ p ∈ parts, sep ∉ p.toList) :
    split sep (mark.intercalate parts) = parts := by
  have hpieces : ∀ p ∈ parts.map String.toList, sep ∉ p := by
    simpa only [List.forall_mem_map] using h
  rw [split, String.toList_intercalate, hmark, pieces_intercalate (by simpa using hne) hpieces]
  simp

/-- Texts that are neither empty nor hold the separator can be told from what they make up. -/
theorem intercalate_inj (h : ∀ p ∈ parts, p ≠ "" ∧ sep ∉ p.toList)
    (hothers : ∀ p ∈ others, p ≠ "" ∧ sep ∉ p.toList) :
    mark.intercalate parts = mark.intercalate others ↔ parts = others := by
  have hnil : mark.intercalate parts = "" ↔ parts = [] :=
    intercalate_eq_empty_iff fun p hp => (h p hp).1
  have hnil' : mark.intercalate others = "" ↔ others = [] :=
    intercalate_eq_empty_iff fun p hp => (hothers p hp).1
  refine ⟨fun heq => ?_, fun heq => heq ▸ rfl⟩
  by_cases hempty : parts = []
  · rw [hempty, hnil'.1 (heq ▸ hnil.2 hempty)]
  · have hother : others ≠ [] := fun hother => hempty (hnil.1 (heq ▸ hnil'.2 hother))
    have hsplit := congrArg (split sep) heq
    rwa [split_intercalate hmark hempty fun p hp => (h p hp).2,
      split_intercalate hmark hother fun p hp => (hothers p hp).2] at hsplit

theorem intercalate_split (s : String) : mark.intercalate (split sep s) = s := by
  rw [← String.toList_inj, String.toList_intercalate, hmark, split, List.map_map]
  simpa using intercalate_pieces sep s.toList

end split

end ApiTypes.Text

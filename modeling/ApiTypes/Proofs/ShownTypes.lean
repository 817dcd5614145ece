import ApiTypes.Proofs.DerivedNames
import ApiTypes.Proofs.ExactName

/-!
Types as documentation shows them and as code writes them. Apart from spaces, the two differ in maps
only, which code writes with their full path.
-/
namespace ApiTypes

namespace Text
variable {c : Char} {before mark front rest text : List Char}

/-- The text without its spaces. -/
def withoutSpaces (s : String) : String :=
  String.ofList (s.toList.filter (· ≠ ' '))

/-- The text with another one put before each place where `mark` stands. -/
def insertBefore (before mark : List Char) : List Char → List Char
  | [] => []
  | c :: rest =>
    (if mark.isPrefixOf (c :: rest) then before else []) ++ c :: insertBefore before mark rest

/-- A mark cannot reach across a character that is not in it. -/
theorem isPrefixOf_append_cons (front : List Char) (h : c ∉ mark) :
    mark.isPrefixOf (front ++ c :: rest) = mark.isPrefixOf front := by
  induction front generalizing mark with
  | nil =>
    cases mark with
    | nil => rfl
    | cons m mark => simp [List.isPrefixOf, Ne.symm (List.ne_of_not_mem_cons h)]
  | cons d front ih =>
    cases mark with
    | nil => rfl
    | cons m mark =>
      rw [List.cons_append, List.isPrefixOf_cons_cons, List.isPrefixOf_cons_cons,
        ih (List.not_mem_of_not_mem_cons h)]

theorem insertBefore_append_cons (hmark : mark ≠ []) (h : c ∉ mark) :
    insertBefore before mark (front ++ c :: rest) =
      insertBefore before mark front ++ c :: insertBefore before mark rest := by
  induction front with
  | nil =>
    have hhere : mark.isPrefixOf (c :: rest) = mark.isPrefixOf [] :=
      isPrefixOf_append_cons [] h
    cases mark with
    | nil => exact absurd rfl hmark
    | cons m mark => simp [insertBefore, hhere]
  | cons d front ih =>
    have hhere : mark.isPrefixOf (d :: (front ++ c :: rest)) = mark.isPrefixOf (d :: front) :=
      isPrefixOf_append_cons (d :: front) h
    rw [List.cons_append, insertBefore, insertBefore, hhere, ih]
    simp

theorem insertBefore_append (h : c ∉ front) :
    insertBefore before (c :: mark) (front ++ text) =
      front ++ insertBefore before (c :: mark) text := by
  induction front with
  | nil => rfl
  | cons d front ih =>
    simp [insertBefore, List.isPrefixOf, List.ne_of_not_mem_cons h,
      ih (List.not_mem_of_not_mem_cons h)]

/-- A text without some character of the mark has no place for it. -/
theorem insertBefore_of_not_mem (h : c ∈ mark) (htext : c ∉ text) :
    insertBefore before mark text = text := by
  induction text with
  | nil => rfl
  | cons d rest ih =>
    have hhere : mark.isPrefixOf (d :: rest) = false := by
      rw [← Bool.not_eq_true, List.isPrefixOf_iff_prefix]
      exact fun hstart => htext (hstart.subset h)
    rw [insertBefore, hhere, ih (List.not_mem_of_not_mem_cons htext)]
    rfl

theorem withoutSpaces_append (a b : String) :
    withoutSpaces (a ++ b) = withoutSpaces a ++ withoutSpaces b := by
  rw [withoutSpaces, String.toList_append, List.filter_append, String.ofList_append]
  rfl

theorem withoutSpaces_intercalate_append (a b : List String) :
    withoutSpaces (" ".intercalate (a ++ b)) =
      withoutSpaces (" ".intercalate a) ++ withoutSpaces (" ".intercalate b) := by
  have hmark : " ".toList = [' '] := by decide
  simp only [withoutSpaces, String.toList_intercalate, hmark, filter_intercalate, List.map_append,
    List.flatMap_append, String.ofList_append]

end Text

namespace Ident
variable {i : Ident}

/-- No identifier holds a bracket. -/
theorem not_mem_text : '<' ∉ i.text.toList := by
  intro h
  have hcases := start_or_continue_of_mem_text h
  have hrefused : ¬ ('<' = '#' ∨ isStart '<' = true ∨ Unicode.isXidContinue '<' = true) := by
    decide
  exact hrefused hcases

end Ident

/-- The tokens of a type, with spaces between them. -/
def TypeExpr.text (e : TypeExpr) : String :=
  " ".intercalate e.tokens

namespace FieldType
open Text

/-- A shown type in which every map is written with its full path. No name goes on with a bracket,
so a map is shown wherever the mark stands. -/
def qualifyMaps (shown : String) : String :=
  String.ofList (insertBefore "std::collections::".toList "HashMap<".toList shown.toList)

section qualify
variable {shown : String}

theorem qualifyMaps_of_not_mem (h : '<' ∉ shown.toList) : qualifyMaps shown = shown := by
  rw [qualifyMaps, insertBefore_of_not_mem (c := '<') (by decide) h, String.ofList_toList]

theorem qualifyMaps_append_close : qualifyMaps (shown ++ ">") = qualifyMaps shown ++ ">" := by
  have hclose : ">".toList = '>' :: [] := by decide
  rw [qualifyMaps, String.toList_append, hclose,
    insertBefore_append_cons (by decide) (by decide), String.ofList_append]
  rfl

/-- No map begins in a text without a capital H. -/
theorem qualifyMaps_append {front : String} (h : 'H' ∉ front.toList) :
    qualifyMaps (front ++ shown) = front ++ qualifyMaps shown := by
  have hmap : "HashMap<".toList = 'H' :: "ashMap<".toList := by decide
  rw [qualifyMaps, qualifyMaps, String.toList_append, hmap, insertBefore_append h,
    String.ofList_append, String.ofList_toList]

theorem qualifyMaps_map :
    qualifyMaps ("HashMap<String, " ++ shown) =
      "std::collections::HashMap<String, " ++ qualifyMaps shown := by
  rw [← String.toList_inj]
  simp [qualifyMaps, insertBefore]

end qualify

section display
variable (t : FieldType)

theorem display_list : (list t).display = "Vec<" ++ t.display ++ ">" :=
  rfl

theorem display_map : (map t).display = "HashMap<String, " ++ t.display ++ ">" :=
  rfl

theorem display_option : (option t).display = "Option<" ++ t.display ++ ">" :=
  rfl

end display

/-- A type with an argument is written as it is shown when the argument and all before it are. -/
theorem withoutSpaces_text {e inner : TypeExpr} {opening shown : String} (front : List String)
    (htokens : e.tokens = front ++ (inner.tokens ++ [">"]))
    (hfront : withoutSpaces (" ".intercalate front) = withoutSpaces opening)
    (hinner : withoutSpaces inner.text = withoutSpaces shown) :
    withoutSpaces e.text = withoutSpaces (opening ++ shown ++ ">") := by
  rw [TypeExpr.text, htokens, withoutSpaces_intercalate_append, withoutSpaces_intercalate_append,
    hfront, withoutSpaces_append, withoutSpaces_append, ← hinner, String.append_assoc]
  rfl

/-- When the name at the core of a type is an identifier, the type can be written, and what is
written is what is shown but for spaces and the paths of maps. -/
theorem expr_text_eq_display (t : FieldType)
    (hexact : ∀ n, t.core = .named n → (Ident.ofText? n).isSome = true) :
    ∃ e, t.expr = .ok e ∧ withoutSpaces e.text = withoutSpaces (qualifyMaps t.display) := by
  induction t with
  | named name =>
    obtain ⟨i, hi⟩ := Option.isSome_iff_exists.1 (hexact name rfl)
    refine ⟨.name i, by rw [expr, hi], ?_⟩
    change _ = withoutSpaces (qualifyMaps name)
    rw [← Ident.text_of_ofText? hi, qualifyMaps_of_not_mem Ident.not_mem_text]
    simp [TypeExpr.text, TypeExpr.tokens]
  | list element ih =>
    obtain ⟨e, he, htext⟩ := ih hexact
    refine ⟨.path ["Vec"] [e], by rw [expr, he]; rfl, ?_⟩
    rw [display_list, qualifyMaps_append_close, qualifyMaps_append (by decide)]
    refine withoutSpaces_text ["Vec", "<"] ?_ (by decide) htext
    simp [TypeExpr.tokens, TypeExpr.moreTokens]
  | map value ih =>
    obtain ⟨e, he, htext⟩ := ih hexact
    refine ⟨.path ["std", "collections", "HashMap"] [.path ["String"] [], e],
      by rw [expr, he]; rfl, ?_⟩
    rw [display_map, qualifyMaps_append_close, qualifyMaps_map]
    refine withoutSpaces_text ["std", "::", "collections", "::", "HashMap", "<", "String", ","] ?_
      (by decide) htext
    simp [TypeExpr.tokens, TypeExpr.moreTokens]
  | option value ih =>
    obtain ⟨e, he, htext⟩ := ih hexact
    refine ⟨.path ["Option"] [e], by rw [expr, he]; rfl, ?_⟩
    rw [display_option, qualifyMaps_append_close, qualifyMaps_append (by decide)]
    refine withoutSpaces_text ["Option", "<"] ?_ (by decide) htext
    simp [TypeExpr.tokens, TypeExpr.moreTokens]
  | bool | string | i32 | u32 | i64 | u64 | f32 | f64 | json => exact ⟨_, rfl, by decide⟩

/-- A map to lists of a type that is named like a map. -/
theorem expr_text_eq_display_map :
    ∃ e, (option (map (list (named "HashMap")))).expr = .ok e ∧
      withoutSpaces e.text = "Option<std::collections::HashMap<String,Vec<HashMap>>>" := by
  have hexact : ∀ n, (option (map (list (named "HashMap")))).core = .named n →
      (Ident.ofText? n).isSome = true := by
    rintro n ⟨⟩
    decide
  obtain ⟨e, he, htext⟩ := expr_text_eq_display (option (map (list (named "HashMap")))) hexact
  refine ⟨e, he, htext.trans ?_⟩
  decide

end FieldType

end ApiTypes

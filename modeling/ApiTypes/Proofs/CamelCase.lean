import ApiTypes.Text.Words
import ApiTypes.Unicode.Ascii
import Mathlib.Data.List.Chain

/-!
The words in a camel-cased name. Such a name is put together from words and acronyms, and a capital
marks each word behind the first part. The snake case of the name has an underscore wherever two
parts meet, and nowhere else, so that the parts can be told from it.
-/
namespace ApiTypes.Text
open Unicode

/-- A part of a camel-cased name. -/
inductive CamelPart where
  /-- A small letter, and small letters and digits behind it. -/
  | word (first : Char) (rest : List Char) (letter : first.isLower = true)
      (small : ∀ c ∈ rest, isSmall c = true)
  /-- One capital or more. -/
  | acronym (first : Char) (rest : List Char) (capital : first.isUpper = true)
      (capitals : ∀ c ∈ rest, c.isUpper = true)

namespace CamelPart

def IsAcronym : CamelPart → Prop
  | word .. => False
  | acronym .. => True

/-- The part at the beginning of a name. -/
def leading : CamelPart → List Char
  | word first rest .. | acronym first rest .. => first :: rest

/-- The part behind another one, where a word has a capital. -/
def following : CamelPart → List Char
  | word first rest .. => first.toUpper :: rest
  | acronym first rest .. => first :: rest

/-- The part in small letters. -/
def lowered : CamelPart → String
  | word first rest .. => String.ofList (first :: rest)
  | acronym first rest .. => String.ofList ((first :: rest).map Char.toLower)

/-- The last character. -/
def last : CamelPart → Char
  | word first rest .. | acronym first rest .. => rest.getLastD first

/-- What may stand behind the part `p`. -/
inductive CanFollow (p : CamelPart) : CamelPart → Prop
  /-- No acronym stands behind another. -/
  | acronym {first : Char} {rest : List Char} {capital : first.isUpper = true}
      {capitals : ∀ c ∈ rest, c.isUpper = true} (apart : ¬ p.IsAcronym) :
      CanFollow p (.acronym first rest capital capitals)
  /-- A word has two characters or more, the second one a letter if an acronym precedes. -/
  | word {first second : Char} {rest : List Char} {letter : first.isLower = true}
      {small : ∀ c ∈ second :: rest, isSmall c = true}
      (visible : p.IsAcronym → second.isLower = true) :
      CanFollow p (.word first (second :: rest) letter small)

end CamelPart

/-- The name that the parts make up. -/
def camelCase : List CamelPart → String
  | [] => ""
  | p :: rest => String.ofList (p.leading ++ rest.flatMap CamelPart.following)

section letters
variable {a c n : Char} {next : Option Char}

theorem beginsWord_of_isSmall (h : isSmall c = true) : beginsWord a c next = false := by
  rw [beginsWord, isUppercase_of_isSmall h, Bool.false_and]

/-- No word begins at a capital between capitals, or at the last one of a name. -/
theorem beginsWord_within_capitals (ha : a.isUpper = true) (hnext : ∀ n ∈ next, n.isUpper = true) :
    beginsWord a c next = false := by
  have hdigit : a.isDigit = false :=
    forall_ascii (P := fun c => c.isUpper = true → c.isDigit = false) (by decide)
      (ascii_of_isUpper ha) ha
  have hany : next.any isLowercase = false := by
    cases next with
    | none => rfl
    | some n => exact isLowercase_of_isUpper (hnext n rfl)
  rw [beginsWord, isLowercase_of_isUpper ha, hdigit, hany, Bool.false_and, Bool.or_self,
    Bool.or_self, Bool.and_false]

theorem beginsWord_behind_small (ha : isSmall a = true) (hc : c.isUpper = true) :
    beginsWord a c next = true := by
  have hsmall : (isLowercase a || a.isDigit) = true :=
    forall_ascii (P := fun c => isSmall c = true → (isLowercase c || c.isDigit) = true) (by decide)
      (ascii_of_isSmall ha) ha
  rw [beginsWord, isUppercase_of_ascii (ascii_of_isUpper hc), hc, hsmall, Bool.true_or,
    Bool.and_true]

theorem beginsWord_before_letter (ha : a.isUpper = true) (hc : c.isUpper = true)
    (hn : n.isLower = true) : beginsWord a c (some n) = true := by
  have hmark : a ≠ '_' := by
    rintro rfl
    cases ha
  have hlower : isLowercase n = true := by
    rw [isLowercase_of_ascii (ascii_of_isSmall (isSmall_of_isLower hn)), hn]
  simp [beginsWord, isUppercase_of_ascii (ascii_of_isUpper hc), hc, hlower, hmark]

end letters

section snake
variable {a c : Char} {xs ys : List Char} {p q : CamelPart} {parts rest : List CamelPart}

/-- Small letters and digits stay as they are. -/
theorem snakeFrom_small (h : ∀ c ∈ xs, isSmall c = true) :
    snakeFrom (some a) (xs ++ ys) = xs ++ snakeFrom (some (xs.getLastD a)) ys := by
  induction xs generalizing a with
  | nil => rfl
  | cons x xs ih =>
    obtain ⟨hx, hxs⟩ := List.forall_mem_cons.1 h
    rw [List.cons_append, snakeFrom, beginsWord_of_isSmall hx, lowerChar_of_isSmall hx, ih hxs,
      List.getLastD_cons]
    rfl

/-- Capitals behind another one only become small, unless a small letter comes next. -/
theorem snakeFrom_capitals (ha : a.isUpper = true) (h : ∀ c ∈ xs, c.isUpper = true)
    (hys : ∀ c ∈ ys.head?, c.isUpper = true) :
    snakeFrom (some a) (xs ++ ys) =
      xs.map Char.toLower ++ snakeFrom (some (xs.getLastD a)) ys := by
  induction xs generalizing a with
  | nil => rfl
  | cons x xs ih =>
    obtain ⟨hx, hxs⟩ := List.forall_mem_cons.1 h
    have hnext : ∀ c ∈ (xs ++ ys).head?, c.isUpper = true := by
      cases xs with
      | nil => exact hys
      | cons y xs =>
        rintro c ⟨⟩
        exact hxs y List.mem_cons_self
    rw [List.cons_append, snakeFrom, beginsWord_within_capitals ha hnext, lowerChar_of_isUpper hx,
      ih hx hxs, List.getLastD_cons]
    rfl

namespace CamelPart

theorem isSmall_last (h : ¬ p.IsAcronym) : isSmall p.last = true := by
  cases p with
  | word first rest letter small =>
    rcases List.mem_cons.1 (List.getLastD_mem_cons (l := rest) (a := first)) with heq | hmem
    · rw [last, heq]
      exact isSmall_of_isLower letter
    · exact small _ hmem
  | acronym => exact absurd trivial h

theorem isUpper_last (h : p.IsAcronym) : p.last.isUpper = true := by
  cases p with
  | word => exact h.elim
  | acronym first rest capital capitals =>
    rcases List.mem_cons.1 (List.getLastD_mem_cons (l := rest) (a := first)) with heq | hmem
    · rwa [last, heq]
    · exact capitals _ hmem

/-- Behind a part stands a capital or nothing. -/
theorem isUpper_of_mem_head? (h : c ∈ (rest.flatMap following).head?) : c.isUpper = true := by
  cases rest with
  | nil => cases h
  | cons q rest =>
    cases q with
    | word first tail letter =>
      cases h
      exact isUpper_toUpper letter
    | acronym first tail capital =>
      cases h
      exact capital

/-- At the beginning of a name, a part becomes small and nothing is put in front of it. -/
theorem snakeFrom_leading (hys : ∀ c ∈ ys.head?, c.isUpper = true) :
    snakeFrom none (p.leading ++ ys) = p.lowered.toList ++ snakeFrom (some p.last) ys := by
  cases p with
  | word first rest letter small =>
    rw [leading, List.cons_append, snakeFrom, lowerChar_of_isSmall (isSmall_of_isLower letter),
      snakeFrom_small small, lowered, String.toList_ofList]
    rfl
  | acronym first rest capital capitals =>
    rw [leading, List.cons_append, snakeFrom, lowerChar_of_isUpper capital,
      snakeFrom_capitals capital capitals hys, lowered, String.toList_ofList]
    rfl

/-- Behind another part, an underscore is put in front of it. -/
theorem CanFollow.snakeFrom_following (h : CanFollow p q)
    (hys : ∀ c ∈ ys.head?, c.isUpper = true) :
    snakeFrom (some p.last) (q.following ++ ys) =
      '_' :: (q.lowered.toList ++ snakeFrom (some q.last) ys) := by
  cases h with
  | @acronym first rest capital capitals apart =>
    rw [following, List.cons_append, snakeFrom, beginsWord_behind_small (isSmall_last apart) capital,
      lowerChar_of_isUpper capital, snakeFrom_capitals capital capitals hys, lowered,
      String.toList_ofList]
    rfl
  | @word first second rest letter small visible =>
    have hcapital := isUpper_toUpper letter
    have hbegins : beginsWord p.last first.toUpper (some second) = true := by
      by_cases hp : p.IsAcronym
      · exact beginsWord_before_letter (isUpper_last hp) hcapital (visible hp)
      · exact beginsWord_behind_small (isSmall_last hp) hcapital
    rw [following, List.cons_append, snakeFrom, List.cons_append, List.head?_cons, hbegins,
      lowerChar_of_isUpper hcapital, toLower_toUpper letter, ← List.cons_append,
      snakeFrom_small small, lowered, String.toList_ofList]
    rfl

theorem snakeFrom_flatMap_following (h : (p :: rest).IsChain CanFollow) :
    snakeFrom (some p.last) (rest.flatMap following) = rest.flatMap ('_' :: ·.lowered.toList) := by
  induction rest generalizing p with
  | nil => rfl
  | cons q rest ih =>
    obtain ⟨hq, hrest⟩ := List.isChain_cons_cons.1 h
    rw [List.flatMap_cons, hq.snakeFrom_following fun _ => isUpper_of_mem_head?, ih hrest]
    rfl

theorem lowered_ne_empty (p : CamelPart) : p.lowered ≠ "" := by
  cases p <;> simp [lowered, ← String.toList_inj]

theorem underscore_notMem_lowered (p : CamelPart) : '_' ∉ p.lowered.toList := by
  cases p with
  | word first rest letter small =>
    rw [lowered, String.toList_ofList]
    intro hmem
    rcases List.mem_cons.1 hmem with rfl | hmem
    · cases letter
    · cases small _ hmem
  | acronym first rest capital capitals =>
    rw [lowered, String.toList_ofList]
    intro hmem
    obtain ⟨c, hc, hlower⟩ := List.mem_map.1 hmem
    have hall : ∀ c ∈ first :: rest, c.isUpper = true :=
      List.forall_mem_cons.2 ⟨capital, capitals⟩
    have hcapital := hall c hc
    exact forall_ascii (P := fun c => c.isUpper = true → c.toLower ≠ '_') (by decide)
      (ascii_of_isUpper hcapital) hcapital hlower

end CamelPart

theorem toList_intercalate_lowered (p : CamelPart) (rest : List CamelPart) :
    ("_".intercalate ((p :: rest).map CamelPart.lowered)).toList =
      p.lowered.toList ++ rest.flatMap ('_' :: ·.lowered.toList) := by
  have hmark : "_".toList = ['_'] := rfl
  rw [String.toList_intercalate, hmark, List.map_map, List.map_cons, intercalate_cons,
    List.flatMap_map]
  rfl

theorem snakeCase_camelCase_eq (h : parts.IsChain CamelPart.CanFollow) :
    snakeCase (camelCase parts) = "_".intercalate (parts.map CamelPart.lowered) := by
  cases parts with
  | nil => rfl
  | cons p rest =>
    rw [← String.toList_inj, toList_intercalate_lowered, snakeCase, camelCase,
      String.toList_ofList, String.toList_ofList,
      CamelPart.snakeFrom_leading fun _ => CamelPart.isUpper_of_mem_head?,
      CamelPart.snakeFrom_flatMap_following h]

/-- The snake case of a camel-cased name is its parts in small letters with underscores between
them, and so two names have the same snake case only if they have the same parts up to letter
case. -/
theorem snakeCase_camelCase (h : parts.IsChain CamelPart.CanFollow) :
    snakeCase (camelCase parts) = "_".intercalate (parts.map CamelPart.lowered) ∧
      ∀ others, others.IsChain CamelPart.CanFollow →
        (snakeCase (camelCase parts) = snakeCase (camelCase others) ↔
          parts.map CamelPart.lowered = others.map CamelPart.lowered) := by
  have hplain : ∀ parts : List CamelPart, ∀ s ∈ parts.map CamelPart.lowered,
      s ≠ "" ∧ '_' ∉ s.toList := by
    intro parts s hs
    obtain ⟨p, _, rfl⟩ := List.mem_map.1 hs
    exact ⟨p.lowered_ne_empty, p.underscore_notMem_lowered⟩
  refine ⟨snakeCase_camelCase_eq h, fun others hothers => ?_⟩
  rw [snakeCase_camelCase_eq h, snakeCase_camelCase_eq hothers]
  exact intercalate_inj rfl (hplain parts) (hplain others)

end snake

/-- The parts of `HTTPServerV3URL`. -/
def serverParts : List CamelPart :=
  [.acronym 'H' ['T', 'T', 'P'] (by decide) (List.all_eq_true.1 (by decide)),
    .word 's' ['e', 'r', 'v', 'e', 'r'] (by decide) (List.all_eq_true.1 (by decide)),
    .word 'v' ['3'] (by decide) (List.all_eq_true.1 (by decide)),
    .acronym 'U' ['R', 'L'] (by decide) (List.all_eq_true.1 (by decide))]

/-- The parts of `video3dType`. -/
def videoParts : List CamelPart :=
  [.word 'v' ['i', 'd', 'e', 'o', '3', 'd'] (by decide) (List.all_eq_true.1 (by decide)),
    .word 't' ['y', 'p', 'e'] (by decide) (List.all_eq_true.1 (by decide))]

theorem snakeCase_camelCase_server :
    serverParts.IsChain CamelPart.CanFollow ∧ camelCase serverParts = "HTTPServerV3URL" ∧
      snakeCase "HTTPServerV3URL" = "http_server_v3_url" ∧
      videoParts.IsChain CamelPart.CanFollow ∧ camelCase videoParts = "video3dType" ∧
      snakeCase "HTTPServerV3URL" ≠ snakeCase "video3dType" := by
  have hserver : serverParts.IsChain CamelPart.CanFollow :=
    .cons_cons (.word fun _ => by decide) (.cons_cons (.word nofun)
      (.cons_cons (.acronym id) (.singleton _)))
  have hvideo : videoParts.IsChain CamelPart.CanFollow :=
    .cons_cons (.word nofun) (.singleton _)
  obtain ⟨hsnake, hinj⟩ := snakeCase_camelCase hserver
  have hname : camelCase serverParts = "HTTPServerV3URL" := by decide
  have hother : camelCase videoParts = "video3dType" := by decide
  have hinj := hinj videoParts hvideo
  rw [hname] at hsnake hinj
  rw [hother] at hinj
  exact ⟨hserver, hname, hsnake, hvideo, hother, mt hinj.1 (by decide)⟩

end ApiTypes.Text

import ApiTypes.Proofs.ResolvedFields
import ApiTypes.Unicode.Ascii

/-!
Field names of ASCII properties. What is made of an ASCII text consists of small letters, digits and
underscores and does not begin with a digit, so that only a lone underscore can be refused; and
making a field name of a field name changes nothing.
-/
namespace ApiTypes.Naming
open Text Unicode

/-- Nothing of the property name can be kept: it is empty, or a single character that is neither a
letter nor a digit. -/
def isDegenerate (property : String) : Bool :=
  match property.toList with
  | [] => true
  | [c] => !c.isAlphanum
  | _ => false

/-- A small letter, a digit or an underscore. -/
def isFieldChar (c : Char) : Bool :=
  isSmall c || c == '_'

/-- The text has the form of a field name in ASCII. -/
structure IsFieldText (text : List Char) : Prop where
  chars : ∀ c ∈ text, isFieldChar c = true
  ne_nil : text ≠ []
  no_digit : ∀ c ∈ text.head?, c.isDigit = false

section chars
variable {c : Char} {text cs : List Char} {previous : Option Char}

theorem ascii_of_isFieldChar (h : isFieldChar c = true) : c.toNat < 0x80 := by
  rcases Bool.or_eq_true_iff.1 h with hsmall | hmark
  · exact ascii_of_isSmall hsmall
  · rw [beq_iff_eq.1 hmark]
    decide

theorem isFieldChar_nameChar (h : c.toNat < 0x80) : isFieldChar (nameChar c.toLower) = true :=
  forall_ascii (P := fun c => isFieldChar (nameChar c.toLower) = true) (by decide) h

theorem nameChar_of_isFieldChar (h : isFieldChar c = true) : nameChar c = c :=
  forall_ascii (P := fun c => isFieldChar c = true → nameChar c = c) (by decide)
    (ascii_of_isFieldChar h) h

theorem isXidContinue_of_isFieldChar (h : isFieldChar c = true) : isXidContinue c = true :=
  forall_ascii (P := fun c => isFieldChar c = true → isXidContinue c = true) (by decide)
    (ascii_of_isFieldChar h) h

theorem isStart_of_isFieldChar (h : isFieldChar c = true) (hdigit : c.isDigit = false) :
    Ident.isStart c = true :=
  forall_ascii (P := fun c => isFieldChar c = true → c.isDigit = false → Ident.isStart c = true)
    (by decide) (ascii_of_isFieldChar h) h hdigit

/-- The snake case holds small letters of the text, and underscores. -/
theorem mem_snakeFrom (h : c ∈ snakeFrom previous cs) : c = '_' ∨ ∃ d ∈ cs, c ∈ lowerChar d := by
  induction cs generalizing previous with
  | nil => cases previous <;> cases h
  | cons d rest ih =>
    have htail : ∀ {previous}, c ∈ snakeFrom previous rest →
        c = '_' ∨ ∃ e ∈ d :: rest, c ∈ lowerChar e := fun hmem =>
      (ih hmem).imp_right fun ⟨e, he, hc⟩ => ⟨e, List.mem_cons_of_mem _ he, hc⟩
    have hhead : c ∈ lowerChar d → c = '_' ∨ ∃ e ∈ d :: rest, c ∈ lowerChar e := fun hmem =>
      Or.inr ⟨d, List.mem_cons_self, hmem⟩
    cases previous with
    | none => exact (List.mem_append.1 h).elim hhead htail
    | some a =>
      rcases List.mem_append.1 h with h | h
      · rcases List.mem_append.1 h with h | h
        · split at h
          · exact Or.inl (List.mem_singleton.1 h)
          · cases h
        · exact hhead h
      · exact htail h

/-- Nothing is to be done where all letters are small. -/
theorem snakeFrom_of_isFieldChar (h : ∀ c ∈ cs, isFieldChar c = true) :
    snakeFrom previous cs = cs := by
  induction cs generalizing previous with
  | nil => cases previous <;> rfl
  | cons c rest ih =>
    obtain ⟨hc, hrest⟩ := List.forall_mem_cons.1 h
    have hlower : lowerChar c = [c] :=
      forall_ascii (P := fun c => isFieldChar c = true → lowerChar c = [c]) (by decide)
        (ascii_of_isFieldChar hc) hc
    have hcapital : isUppercase c = false :=
      forall_ascii (P := fun c => isFieldChar c = true → isUppercase c = false) (by decide)
        (ascii_of_isFieldChar hc) hc
    cases previous with
    | none => rw [snakeFrom, hlower, ih hrest, List.singleton_append]
    | some a =>
      rw [snakeFrom, beginsWord, hcapital, hlower, ih hrest, Bool.false_and]
      rfl

theorem isFieldText_guardStart (h : ∀ c ∈ text, isFieldChar c = true) :
    IsFieldText (guardStart text) := by
  cases text with
  | nil =>
    exact ⟨List.forall_mem_singleton.2 (by decide), by simp [guardStart], by simp [guardStart]⟩
  | cons c rest =>
    rw [guardStart]
    split
    · refine ⟨List.forall_mem_cons.2 ⟨by decide, h⟩, by simp, ?_⟩
      rintro _ ⟨⟩
      decide
    · next hdigit =>
      refine ⟨h, by simp, ?_⟩
      rintro _ ⟨⟩
      simpa using hdigit

theorem length_le_guardStart (text : List Char) : text.length ≤ (guardStart text).length := by
  cases text with
  | nil => simp
  | cons c rest =>
    rw [guardStart]
    split <;> simp

namespace IsFieldText

theorem guardStart_eq (h : IsFieldText text) : guardStart text = text := by
  cases text with
  | nil => exact absurd rfl h.ne_nil
  | cons c rest =>
    have hdigit := h.no_digit c rfl
    simp [guardStart, hdigit]

theorem isName (h : IsFieldText text) : Ident.isName text = true := by
  cases text with
  | nil => exact absurd rfl h.ne_nil
  | cons c rest =>
    obtain ⟨hc, hrest⟩ := List.forall_mem_cons.1 h.chars
    rw [Ident.isName, isStart_of_isFieldChar hc (h.no_digit c rfl), Bool.true_and,
      List.all_eq_true]
    exact fun d hd => isXidContinue_of_isFieldChar (hrest d hd)

theorem concat (h : IsFieldText text) : IsFieldText (text ++ ['_']) := by
  refine ⟨List.forall_mem_append.2 ⟨h.chars, List.forall_mem_singleton.2 (by decide)⟩, by simp, ?_⟩
  cases text with
  | nil => exact absurd rfl h.ne_nil
  | cons c rest => exact h.no_digit

end IsFieldText

end chars

section names
variable {property : String} (hascii : ∀ c ∈ property.toList, c.toNat < 0x80)

/-- The characters that a field name is made of before reserved words are avoided. -/
theorem fieldName_eq_avoidReserved (property : String) :
    fieldName property =
      avoidReserved (String.ofList (guardStart ((snakeFrom none property.toList).map nameChar))) := by
  rw [fieldName, snakeCase, String.toList_ofList]

theorem avoidReserved_eq_underscore_iff {name : String} :
    avoidReserved name = "_" ↔ name = "_" := by
  have hlong : ∀ word ∈ reservedFieldNames, word.push '_' ≠ "_" ∧ word ≠ "_" := by
    decide +kernel
  rw [avoidReserved]
  split
  · next hreserved =>
    obtain ⟨hmarked, hplain⟩ := hlong name (by simpa using hreserved)
    exact iff_of_false hmarked hplain
  · exact Iff.rfl

/-- A name that has the form of a field name stays as it is. -/
theorem fieldName_eq_self (h : IsFieldText property.toList)
    (hfree : property ∉ reservedFieldNames) : fieldName property = property := by
  have hchars : property.toList.map nameChar = property.toList :=
    (List.map_congr_left fun c hc => nameChar_of_isFieldChar (h.chars c hc)).trans (List.map_id _)
  rw [fieldName_eq_avoidReserved, snakeFrom_of_isFieldChar h.chars, hchars, h.guardStart_eq,
    String.ofList_toList, avoidReserved, List.contains_eq_mem, if_neg (by simpa using hfree)]

include hascii

theorem isFieldText_fieldName : IsFieldText (fieldName property).toList := by
  have hchars : ∀ c ∈ (snakeFrom none property.toList).map nameChar, isFieldChar c = true := by
    intro c hc
    obtain ⟨d, hd, rfl⟩ := List.mem_map.1 hc
    rcases mem_snakeFrom hd with rfl | ⟨e, he, hd⟩
    · decide
    · rw [lowerChar_of_ascii (hascii e he), List.mem_singleton] at hd
      rw [hd]
      exact isFieldChar_nameChar (hascii e he)
  have htext := isFieldText_guardStart hchars
  rw [fieldName_eq_avoidReserved, avoidReserved]
  split
  · simpa using htext.concat
  · simpa using htext

/-- Only from a degenerate property a lone underscore is made. -/
theorem fieldName_eq_underscore_iff : fieldName property = "_" ↔ isDegenerate property = true := by
  rw [fieldName_eq_avoidReserved, avoidReserved_eq_underscore_iff, isDegenerate]
  change String.ofList _ = String.ofList ['_'] ↔ _
  rw [String.ofList_inj]
  match property.toList, hascii with
  | [], _ => decide
  | [c], hascii =>
    have hc := hascii c List.mem_cons_self
    rw [snakeFrom, lowerChar_of_ascii hc]
    exact forall_ascii (P := fun c =>
      guardStart (List.map nameChar ([c.toLower] ++ [])) = ['_'] ↔ (!c.isAlphanum) = true)
      (by decide +kernel) hc
  | c :: d :: rest, hascii =>
    have hlong : 2 ≤ ((snakeFrom none (c :: d :: rest)).map nameChar).length := by
      simp only [snakeFrom, lowerChar_of_ascii (hascii c (by simp)),
        lowerChar_of_ascii (hascii d (by simp)), List.length_map, List.length_append,
        List.length_singleton]
      omega
    refine ⟨fun h => ?_, nofun⟩
    have hshort := (length_le_guardStart _).trans_eq (congrArg List.length h)
    exact absurd (hlong.trans hshort) (by simp)

theorem accepts_fieldName_iff :
    Ident.accepts (fieldName property) = true ↔ isDegenerate property = false := by
  have hkeywords : ∀ word ∈ Ident.keywords,
      word ∈ reservedFieldNames ∨ word = "_" ∨ word = "Self" := by
    decide +kernel
  have htext := isFieldText_fieldName hascii
  rw [Ident.accepts_iff_of_isName htext.isName, ← Bool.not_eq_true,
    ← fieldName_eq_underscore_iff hascii]
  refine not_congr ⟨fun hkeyword => ?_, fun hmark => by rw [hmark]; decide⟩
  rcases hkeywords _ hkeyword with hreserved | hmark | hself
  · exact absurd hreserved fieldName_not_reserved
  · exact hmark
  · have hcapital : isFieldChar 'S' = false := by decide
    have hchars := htext.chars
    rw [hself] at hchars
    cases hcapital.symm.trans (hchars 'S' (by decide))

theorem fieldName_fieldName : fieldName (fieldName property) = fieldName property :=
  fieldName_eq_self (isFieldText_fieldName hascii) fieldName_not_reserved

/-- An ASCII property that is not degenerate gets a field name that is an identifier. A degenerate
one gets a lone underscore, and a schema with such a property has no fields: the error is that of a
property before it, or tells of this one. A field name is its own field name. -/
theorem fieldName_of_ascii :
    (Ident.accepts (fieldName property) = true ↔ isDegenerate property = false) ∧
      (isDegenerate property = true → fieldName property = "_" ∧
        ∀ (s : SchemaNode) (before after : Table Property) (p : Property),
          (s.shape = .ok (.object (before ++ (property, p) :: after)) ∨
            s.shape = .ok (.records (before ++ (property, p) :: after))) →
          Field.ofSchema s = (do
            let _ ← Field.ofProperties s.id [] before
            Outcome.fail (.code (.badFieldName s.id property)))) ∧
      fieldName (fieldName property) = fieldName property := by
  refine ⟨accepts_fieldName_iff hascii, fun hdegenerate => ?_, fieldName_fieldName hascii⟩
  refine ⟨(fieldName_eq_underscore_iff hascii).2 hdegenerate, fun s before after p hshape => ?_⟩
  have hrefused : Ident.accepts (fieldName property) = false := by
    rw [← Bool.not_eq_true, accepts_fieldName_iff hascii, hdegenerate]
    decide
  rw [Field.ofSchema_of_shape hshape, Field.ofProperties_of_refused hrefused]

end names

/-- A property that would be named after a reserved word gets a name of its own. A lone sign is
refused, after a property that has a field. -/
theorem fieldName_of_ascii_reserved :
    (Ident.accepts (fieldName "Type") = true ∧ fieldName (fieldName "Type") = fieldName "Type") ∧
      Field.ofSchema
          { id := "Video", kind := some .object, properties := [("id", .of .string), ("@", {})] } =
        Outcome.fail (.code (.badFieldName "Video" "@")) := by
  have htype : ∀ c ∈ "Type".toList, c.toNat < 0x80 := by simp
  have hat : ∀ c ∈ "@".toList, c.toNat < 0x80 := by simp
  have hreserved := fieldName_of_ascii htype
  have hsign := fieldName_of_ascii hat
  refine ⟨⟨hreserved.1.2 (by decide), hreserved.2.2⟩, ?_⟩
  rw [(hsign.2.1 (by decide)).2 _ [("id", .of .string)] [] {} (Or.inl rfl)]
  decide +kernel

end ApiTypes.Naming

import ApiTypes.Proofs.MadeNames

/-!
The identifiers of fields. A text is accepted as a name when one is read from it, although a byte
order mark, blanks, comments or the mark of raw names may belong to it. A field name holds nothing
of the kind. So an accepted one is a name from end to end, and it is what the identifier is made of.
-/
namespace ApiTypes

/-- The text is a single name that is not raw and no keyword, with nothing around it. -/
structure Ident.IsPlainName (s : String) : Prop where
  exact : isName s.toList = true
  not_keyword : s ∉ keywords

namespace Ident
variable {s : String}

theorem ofText?_of_isName (h : isName s.toList = true) : ofText? s = some ⟨false, s, h, nofun⟩ := by
  simp [ofText?, cutRaw_of_isName h, h]

/-- Plain names are the accepted texts from which identifiers are made that are not raw. -/
theorem isPlainName_iff :
    IsPlainName s ↔ accepts s = true ∧ ∃ i, ofText? s = some i ∧ i.raw = false := by
  constructor
  · intro h
    exact ⟨(accepts_iff_of_isName h.exact).2 h.not_keyword, _, ofText?_of_isName h.exact, rfl⟩
  · rintro ⟨haccepts, i, hi, hraw⟩
    have hname : i.name = s := by simpa [text, hraw] using text_of_ofText? hi
    have hexact : isName s.toList = true := hname ▸ i.exact
    exact ⟨hexact, (accepts_iff_of_isName hexact).1 haccepts⟩

end Ident

namespace Naming

theorem isPlainName_fieldName {property : String}
    (h : Ident.accepts (fieldName property) = true) : Ident.IsPlainName (fieldName property) := by
  obtain ⟨i, hi, hraw, _⟩ := exists_of_accepts_fieldName h
  exact Ident.isPlainName_iff.2 ⟨h, i, hi, hraw⟩

end Naming

namespace Field

/-- A field name that is accepted is a plain name, and of a free one the identifier of the field is
made, which is written as the field name. So the properties of a schema are resolved without
stopping, and the fields are called by their field names. -/
theorem accepted_names_made :
    (∀ property, Ident.accepts (Naming.fieldName property) = true →
      Ident.IsPlainName (Naming.fieldName property) ∧
        ∃ i : Ident, i.raw = false ∧ i.text = Naming.fieldName property ∧
          ∀ schema taken p, Naming.fieldName property ∉ taken →
            ofProperty schema taken property p =
              (⟨property, i, ·, p.description⟩) <$>
                (FieldType.ofProperty schema property p).mapError .error) ∧
      ∀ schema taken properties,
        (∀ n, ofProperties schema taken properties ≠ .error (.noIdentifier n)) ∧
          ∀ fields, ofProperties schema taken properties = .ok fields →
            fields.map (·.ident.text) = properties.map (Naming.fieldName ·.1) := by
  constructor
  · intro property haccepts
    obtain ⟨i, hi, hraw, _⟩ := Naming.exists_of_accepts_fieldName haccepts
    exact ⟨Naming.isPlainName_fieldName haccepts, i, hraw, Ident.text_of_ofText? hi,
      fun _ _ p hfree => ofProperty_of_ident haccepts hi hfree p⟩
  · intro schema taken properties
    refine ⟨fun n => ofProperties_ne_noIdentifier, fun fields hfields => ?_⟩
    exact texts_of_mirrors (ofProperties_ok_iff.1 hfields).1

/-- The small form of the first letter is two characters, of which a field name keeps one, and the
rest of the name begins a comment. -/
theorem accepted_names_made_dotted :
    Naming.fieldName "\u0130d /*" = "i_d___" ∧ Ident.accepts "i_d___" = true ∧
      Ident.IsPlainName "i_d___" ∧
      ∃ f, ofProperty "Video" ["kind"] "\u0130d /*" (.of .string) = .ok f ∧
        f.ident.raw = false ∧ f.ident.text = "i_d___" := by
  have hname : Naming.fieldName "\u0130d /*" = "i_d___" := by decide +kernel
  have haccepts : Ident.accepts (Naming.fieldName "\u0130d /*") = true := by decide +kernel
  obtain ⟨hplain, i, hraw, htext, hfield⟩ := accepted_names_made.1 _ haccepts
  have hfree : Naming.fieldName "\u0130d /*" ∉ ["kind"] := by
    rw [hname]
    decide
  rw [hname] at haccepts hplain htext
  exact ⟨hname, haccepts, hplain, _, hfield "Video" ["kind"] (.of .string) hfree, hraw, htext⟩

end Field

end ApiTypes

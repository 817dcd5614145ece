import ApiTypes.Unicode.CaseMap
import ApiTypes.Unicode.Cased

/-! ASCII, the first 128 code points. Its letters have one other form each and no context. -/
namespace ApiTypes.Unicode
variable {c : Char}

/-- A small letter or a digit. -/
def isSmall (c : Char) : Bool :=
  c.isLower || c.isDigit

/-- What holds of all ASCII characters can be tried on one after the other. -/
theorem forall_ascii {P : Char → Prop} (h : ∀ n < 0x80, P (Char.ofNat n)) (hc : c.toNat < 0x80) :
    P c := by
  have hchar := h c.toNat hc
  rwa [Char.ofNat_toNat] at hchar

theorem lowerChar_of_ascii (hc : c.toNat < 0x80) : lowerChar c = [c.toLower] :=
  if_pos hc

theorem isUppercase_of_ascii (hc : c.toNat < 0x80) : isUppercase c = c.isUpper :=
  if_pos hc

theorem isLowercase_of_ascii (hc : c.toNat < 0x80) : isLowercase c = c.isLower :=
  if_pos hc

theorem ascii_of_le {d : Char} (h : c.val ≤ d.val) (hd : d.toNat < 0x80) : c.toNat < 0x80 :=
  Nat.lt_of_le_of_lt (UInt32.le_iff_toNat_le.1 h) hd

theorem ascii_of_isUpper (h : c.isUpper = true) : c.toNat < 0x80 :=
  ascii_of_le (d := 'Z') (of_decide_eq_true h).2 (by decide)

theorem ascii_of_isSmall (h : isSmall c = true) : c.toNat < 0x80 := by
  rcases Bool.or_eq_true_iff.1 h with hlower | hdigit
  · exact ascii_of_le (d := 'z') (of_decide_eq_true (Bool.and_eq_true_iff.1 hlower).2) (by decide)
  · exact ascii_of_le (d := '9') (of_decide_eq_true (Bool.and_eq_true_iff.1 hdigit).2) (by decide)

theorem isSmall_of_isLower (h : c.isLower = true) : isSmall c = true :=
  Bool.or_eq_true_iff.2 (Or.inl h)

theorem isUppercase_of_isSmall (h : isSmall c = true) : isUppercase c = false :=
  forall_ascii (P := fun c => isSmall c = true → isUppercase c = false) (by decide)
    (ascii_of_isSmall h) h

theorem isLowercase_of_isUpper (h : c.isUpper = true) : isLowercase c = false :=
  forall_ascii (P := fun c => c.isUpper = true → isLowercase c = false) (by decide)
    (ascii_of_isUpper h) h

theorem lowerChar_of_isSmall (h : isSmall c = true) : lowerChar c = [c] :=
  forall_ascii (P := fun c => isSmall c = true → lowerChar c = [c]) (by decide)
    (ascii_of_isSmall h) h

theorem lowerChar_of_isUpper (h : c.isUpper = true) : lowerChar c = [c.toLower] :=
  lowerChar_of_ascii (ascii_of_isUpper h)

theorem isUpper_toUpper (h : c.isLower = true) : c.toUpper.isUpper = true :=
  forall_ascii (P := fun c => c.isLower = true → c.toUpper.isUpper = true) (by decide)
    (ascii_of_isSmall (isSmall_of_isLower h)) h

theorem toLower_toUpper (h : c.isLower = true) : c.toUpper.toLower = c :=
  forall_ascii (P := fun c => c.isLower = true → c.toUpper.toLower = c) (by decide)
    (ascii_of_isSmall (isSmall_of_isLower h)) h

end ApiTypes.Unicode

import Relabel.Word.Boundary
import Relabel.Word.Capital
import Relabel.Word.Segment

/-!
# ASCII characters in identifiers

The properties that words and pieces are cut by, and the two case forms, for the characters of
ASCII.  There an alphanumeric character is a digit, a capital or a small letter, and it is only
one of them.
-/

namespace Relabel.Unicode

theorem forall_ascii {P : Char → Prop} (h : ∀ n, n < 128 → P (Char.ofNat n)) {c : Char}
    (hc : isAscii c) : P c := by
  have hcode : c.toNat < 128 := by simpa [isAscii] using hc
  have := h c.toNat hcode
  rwa [Char.ofNat_toNat] at this

theorem isAlpha_eq (c : Char) : c.isAlpha = (c.isUpper || c.isLower) := rfl

theorem isAlphanumeric_of_isAscii {c : Char} (hc : isAscii c) :
    isAlphanumeric c = (c.isUpper || c.isLower || c.isDigit) := by
  simp [isAlphanumeric, hc, Char.isAlphanum, isAlpha_eq]

theorem isLowercase_of_isAscii {c : Char} (hc : isAscii c) : isLowercase c = c.isLower := by
  simp [isLowercase, hc]

theorem isUppercase_of_isAscii {c : Char} (hc : isAscii c) : isUppercase c = c.isUpper := by
  simp [isUppercase, hc]

theorem toLowercase_of_isAscii {c : Char} (hc : isAscii c) : toLowercase c = [c.toLower] := by
  simp [toLowercase, hc]

theorem toUppercase_of_isAscii {c : Char} (hc : isAscii c) : toUppercase c = [c.toUpper] := by
  simp [toUppercase, hc]

theorem isAscii_of_isDigit {c : Char} (h : c.isDigit) : isAscii c := by
  have hlast : c.val ≤ '9'.val := of_decide_eq_true (Bool.and_eq_true_iff.mp h).2
  simpa [isAscii] using Nat.lt_of_le_of_lt hlast (by decide)

theorem isAscii_of_isLower {c : Char} (h : c.isLower) : isAscii c := by
  have hlast : c.val ≤ 'z'.val := of_decide_eq_true (Bool.and_eq_true_iff.mp h).2
  simpa [isAscii] using Nat.lt_of_le_of_lt hlast (by decide)

theorem isAscii_of_isUpper {c : Char} (h : c.isUpper) : isAscii c := by
  have hlast : c.val ≤ 'Z'.val := (of_decide_eq_true h : 'A'.val ≤ c.val ∧ c.val ≤ 'Z'.val).2
  simpa [isAscii] using Nat.lt_of_le_of_lt hlast (by decide)

theorem isAlphanumeric_of_isDigit {c : Char} (h : c.isDigit) : isAlphanumeric c := by
  simp [isAlphanumeric_of_isAscii (isAscii_of_isDigit h), h]

theorem isAlphanumeric_of_isLower {c : Char} (h : c.isLower) : isAlphanumeric c := by
  simp [isAlphanumeric_of_isAscii (isAscii_of_isLower h), h]

theorem isAlphanumeric_of_isUpper {c : Char} (h : c.isUpper) : isAlphanumeric c := by
  simp [isAlphanumeric_of_isAscii (isAscii_of_isUpper h), h]

theorem isUpper_isDigit_of_isLower {c : Char} (h : c.isLower) :
    c.isUpper = false ∧ c.isDigit = false :=
  forall_ascii (P := fun c => c.isLower → c.isUpper = false ∧ c.isDigit = false)
    (by decide +kernel) (isAscii_of_isLower h) h

theorem isLower_isDigit_of_isUpper {c : Char} (h : c.isUpper) :
    c.isLower = false ∧ c.isDigit = false :=
  forall_ascii (P := fun c => c.isUpper → c.isLower = false ∧ c.isDigit = false)
    (by decide +kernel) (isAscii_of_isUpper h) h

theorem isUpper_isLower_of_isDigit {c : Char} (h : c.isDigit) :
    c.isUpper = false ∧ c.isLower = false :=
  forall_ascii (P := fun c => c.isDigit → c.isUpper = false ∧ c.isLower = false)
    (by decide +kernel) (isAscii_of_isDigit h) h

theorem isLowercase_of_isLower {c : Char} (h : c.isLower) : isLowercase c := by
  rw [isLowercase_of_isAscii (isAscii_of_isLower h), h]

theorem isUppercase_of_isUpper {c : Char} (h : c.isUpper) : isUppercase c := by
  rw [isUppercase_of_isAscii (isAscii_of_isUpper h), h]

theorem not_isLowercase_of_isUpper {c : Char} (h : c.isUpper) : isLowercase c = false := by
  rw [isLowercase_of_isAscii (isAscii_of_isUpper h), (isLower_isDigit_of_isUpper h).1]

theorem not_isLowercase_of_isDigit {c : Char} (h : c.isDigit) : isLowercase c = false := by
  rw [isLowercase_of_isAscii (isAscii_of_isDigit h), (isUpper_isLower_of_isDigit h).2]

theorem not_isUppercase_of_isLower {c : Char} (h : c.isLower) : isUppercase c = false := by
  rw [isUppercase_of_isAscii (isAscii_of_isLower h), (isUpper_isDigit_of_isLower h).1]

theorem not_isUppercase_of_isDigit {c : Char} (h : c.isDigit) : isUppercase c = false := by
  rw [isUppercase_of_isAscii (isAscii_of_isDigit h), (isUpper_isLower_of_isDigit h).1]

end Relabel.Unicode

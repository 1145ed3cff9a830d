import Relabel.Json.Printer
import Relabel.Proofs.Json.Scan

/-!
# Written scalars

A string between quotes is scanned as one token that holds the string, and a whole number as one
that holds the number, if the text does not go on as a number.
-/

namespace Relabel.Json

/-! ## Strings -/

def unitOf (c : Char) : TextUnit :=
  if c.toNat < 0x20 ∧ c ≠ '\n' ∧ c ≠ '\r' ∧ c ≠ '\t' ∧ c ≠ '\x08' ∧ c ≠ '\x0c' then .code c.toNat
  else .char c

theorem hexCode?_control {n : Nat} (h : n < 0x20) :
    hexCode? '0' '0' (hexDigit (n / 16)) (hexDigit (n % 16)) = some n := by
  decide +revert

theorem scanUnits_escapeChar (c : Char) (rest : List Char) :
    scanUnits (escapeChar c ++ rest) =
      (unitOf c :: (scanUnits rest).1, (scanUnits rest).2.1, (scanUnits rest).2.2) := by
  unfold escapeChar unitOf
  split
  case isTrue h => simp [h, scanUnits, unescape?]
  case isFalse hquote =>
  split
  case isTrue h => simp [h, scanUnits, unescape?]
  case isFalse hbackslash =>
  split
  case isTrue h => simp [h, scanUnits, unescape?]
  case isFalse =>
  split
  case isTrue h => simp [h, scanUnits, unescape?]
  case isFalse =>
  split
  case isTrue h => simp [h, scanUnits, unescape?]
  case isFalse =>
  split
  case isTrue h => simp [h, scanUnits, unescape?]
  case isFalse =>
  split
  case isTrue h => simp [h, scanUnits, unescape?]
  case isFalse =>
  split
  case isTrue hcontrol => simp [*, scanUnits, hexCode?_control hcontrol]
  case isFalse hcontrol => simp [*, scanUnits]

theorem scanUnits_escaped (cs rest : List Char) :
    scanUnits (cs.flatMap escapeChar ++ '"' :: rest) = (cs.map unitOf, .closed, rest) := by
  induction cs with
  | nil => rw [List.flatMap_nil, List.nil_append, scanUnits]; rfl
  | cons c cs ih =>
      rw [List.flatMap_cons, List.append_assoc, scanUnits_escapeChar, ih]
      rfl

theorem textOfUnits_map_unitOf (cs : List Char) :
    textOfUnits .closed (cs.map unitOf) = .ok cs := by
  induction cs with
  | nil => rfl
  | cons c cs ih =>
      rw [List.map_cons, unitOf]
      split
      case isFalse => rw [textOfUnits, ih]; rfl
      case isTrue hcontrol =>
        have hsecond : isSecondHalf c.toNat = false := by simp [isSecondHalf]; omega
        have hfirst : isFirstHalf c.toNat = false := by simp [isFirstHalf]; omega
        unfold textOfUnits
        simp [hsecond, hfirst, ih, Functor.map, Except.map]

theorem tokens_quote (s : String) (rest : List Char) :
    tokens (quote s ++ rest) = .text (.ok s) :: tokens rest := by
  have hscan : scanText (s.toList.flatMap escapeChar ++ '"' :: rest) = (.text (.ok s), rest) := by
    simp only [scanText, scanUnits_escaped, TextEnd.fault?, textOfUnits_map_unitOf]
    simp [Functor.map, Except.map]
  simp only [quote, List.cons_append, List.append_assoc, tokens_cons]
  simp [isSpace, scanToken, hscan]

/-! ## Whole numbers -/

/-- A number in front of the text ends there. -/
def EndsNumber (rest : List Char) : Prop :=
  ∀ c ∈ rest.head?, c.isDigit = false ∧ c ≠ '.' ∧ c ≠ 'e' ∧ c ≠ 'E'

theorem scanDigits_append {digits rest : List Char} (hne : digits ≠ [])
    (hdigits : ∀ c ∈ digits, c.isDigit) (hrest : EndsNumber rest) :
    scanDigits (digits ++ rest) = .ok (digits.map digitValue, rest) := by
  have hstop : rest.takeWhile Char.isDigit = [] ∧ rest.dropWhile Char.isDigit = rest := by
    cases rest with
    | nil => exact ⟨rfl, rfl⟩
    | cons c rest =>
        obtain ⟨hc, -⟩ := hrest c rfl
        simp [hc]
  rw [scanDigits, List.span_eq_takeWhile_dropWhile, List.takeWhile_append_of_pos hdigits,
    List.dropWhile_append_of_pos hdigits, hstop.1, hstop.2, List.append_nil]
  cases digits with
  | nil => contradiction
  | cons c digits => rfl

theorem scanFraction_of_endsNumber {rest : List Char} (h : EndsNumber rest) :
    scanFraction rest = .ok (none, rest) := by
  cases rest with
  | nil => rfl
  | cons c rest =>
      obtain ⟨-, hpoint, -⟩ := h c rfl
      simp [scanFraction, hpoint]

theorem scanExponent_of_endsNumber {rest : List Char} (h : EndsNumber rest) :
    scanExponent rest = .ok (none, rest) := by
  cases rest with
  | nil => rfl
  | cons c rest =>
      obtain ⟨-, -, hsmall, hcapital⟩ := h c rfl
      simp [scanExponent, hsmall, hcapital]

theorem head?_toDigits (n : Nat) (hn : 0 < n) :
    ∃ d rest, Nat.toDigits 10 n = d :: rest ∧ digitValue d ≠ 0 := by
  induction n using Nat.strongRecOn with
  | ind n ih =>
      by_cases hlt : n < 10
      · refine ⟨n.digitChar, [], Nat.toDigits_of_lt_base hlt, ?_⟩
        rw [digitValue, Nat.toNat_digitChar_sub_48_of_lt_ten hlt]
        omega
      · obtain ⟨d, rest, hdigits, hd⟩ := ih (n / 10) (by omega) (by omega)
        refine ⟨d, rest ++ [(n % 10).digitChar], ?_, hd⟩
        rw [Nat.toDigits_of_base_le (by omega) (by omega), hdigits, List.cons_append]

theorem isDigit_of_mem_toDigits {n : Nat} : ∀ c ∈ Nat.toDigits 10 n, c.isDigit :=
  fun _ hc => Nat.isDigit_of_mem_toDigits (by omega) (by omega) hc

theorem scanWhole_toDigits (n : Nat) {rest : List Char} (hrest : EndsNumber rest) :
    scanWhole (Nat.toDigits 10 n ++ rest) = .ok ((Nat.toDigits 10 n).map digitValue, rest) := by
  rw [scanWhole, scanDigits_append Nat.toDigits_ne_nil isDigit_of_mem_toDigits hrest]
  rcases Nat.eq_zero_or_pos n with rfl | hn
  · rfl
  · obtain ⟨d, more, hdigits, hd⟩ := head?_toDigits n hn
    rw [hdigits]
    simp only [bind, Except.bind, List.map_cons]
    split
    · simp_all
    · rfl

theorem readWhole_map_digitValue {significand : Nat} {digits : List Char}
    (h : Nat.ofDigitChars 10 digits significand ≤ Literal.maxSignificand) :
    Literal.readWhole significand (digits.map digitValue) =
      (Nat.ofDigitChars 10 digits significand, 0) := by
  induction digits generalizing significand with
  | nil => simp [Literal.readWhole]
  | cons c digits ih =>
      rw [Nat.ofDigitChars_cons] at h ⊢
      -- The significand only grows, so no digit on the way is one too many.
      have hgrows : 10 * significand + (c.toNat - '0'.toNat) ≤ Literal.maxSignificand := by
        rw [Nat.ofDigitChars_eq_ofDigitChars_zero] at h
        have := Nat.le_mul_of_pos_left (10 * significand + (c.toNat - '0'.toNat))
          (Nat.pow_pos (n := digits.length) (by omega : 0 < 10))
        omega
      have hnext : significand * 10 + digitValue c = 10 * significand + (c.toNat - '0'.toNat) := by
        rw [Nat.mul_comm, digitValue]
        rfl
      rw [List.map_cons, Literal.readWhole, hnext, if_neg (by omega), ih h]

theorem readWhole_toDigits {n : Nat} (h : n ≤ Literal.maxSignificand) :
    Literal.readWhole 0 ((Nat.toDigits 10 n).map digitValue) = (n, 0) := by
  rw [readWhole_map_digitValue (by rwa [Nat.ofDigitChars_ten_toDigits]),
    Nat.ofDigitChars_ten_toDigits]

/-- The literal that a whole number is written as. -/
def Literal.ofInt (n : Int) : Literal :=
  ⟨n < 0, (Nat.toDigits 10 n.natAbs).map digitValue, none, none⟩

theorem Literal.value_ofInt {n : Int} (fits : FitsWord n) :
    (Literal.ofInt n).value = some (.whole n fits) := by
  have hbound : n.natAbs ≤ maxSignificand := by
    obtain ⟨hlow, hhigh⟩ := fits
    rw [maxSignificand]
    omega
  have hsigned : (if n < 0 then -(n.natAbs : Int) else n.natAbs) = n := by
    split <;> omega
  have hzero : ¬ (n < 0 ∧ n.natAbs = 0) := by omega
  simp only [value, ofInt, readWhole_toDigits hbound, decide_eq_true_eq, hsigned, Bool.and_eq_true,
    hzero, Number.ofInt?]
  simp [dif_pos fits]

theorem toList_toString (n : Int) :
    (toString n).toList =
      if n < 0 then '-' :: Nat.toDigits 10 n.natAbs else Nat.toDigits 10 n.natAbs := by
  rw [Int.toString_eq_repr, Int.repr_eq_if]
  split
  · next hn =>
      rw [if_neg (by omega), Nat.toList_repr]
      congr 1
      omega
  · next hn =>
      rw [if_pos (by omega), String.toList_append, Nat.toList_repr]
      have habs : (-n).toNat = n.natAbs := by omega
      rw [habs]
      rfl

theorem scanLiteral_minus {left rest : List Char} {digits : List Nat}
    (hwhole : scanWhole left = .ok (digits, rest)) (hrest : EndsNumber rest) :
    scanLiteral ('-' :: left) = .ok (⟨true, digits, none, none⟩, rest) := by
  simp [scanLiteral, hwhole, scanFraction_of_endsNumber hrest, scanExponent_of_endsNumber hrest,
    bind, Except.bind, pure, Except.pure]

theorem scanLiteral_of_isDigit {c : Char} {left rest : List Char} {digits : List Nat}
    (hc : c.isDigit) (hwhole : scanWhole (c :: left) = .ok (digits, rest))
    (hrest : EndsNumber rest) :
    scanLiteral (c :: left) = .ok (⟨false, digits, none, none⟩, rest) := by
  have hsign : c ≠ '-' := by
    rintro rfl
    contradiction
  simp [scanLiteral, hsign, hwhole, scanFraction_of_endsNumber hrest,
    scanExponent_of_endsNumber hrest, bind, Except.bind, pure, Except.pure]

theorem exists_toDigits_eq_cons (n : Nat) :
    ∃ d rest, Nat.toDigits 10 n = d :: rest ∧ d.isDigit := by
  obtain ⟨d, rest, hdigits⟩ := List.exists_cons_of_ne_nil (Nat.toDigits_ne_nil (n := n))
  refine ⟨d, rest, hdigits, isDigit_of_mem_toDigits (n := n) d ?_⟩
  rw [hdigits]
  exact .head _

theorem scanLiteral_toString (n : Int) {rest : List Char} (hrest : EndsNumber rest) :
    scanLiteral ((toString n).toList ++ rest) = .ok (Literal.ofInt n, rest) := by
  have hwhole := scanWhole_toDigits n.natAbs hrest
  rw [toList_toString, Literal.ofInt]
  split
  case isTrue hn =>
    rw [decide_eq_true hn]
    exact scanLiteral_minus hwhole hrest
  case isFalse hn =>
    rw [decide_eq_false hn]
    obtain ⟨d, more, hdigits, hd⟩ := exists_toDigits_eq_cons n.natAbs
    rw [hdigits] at hwhole ⊢
    exact scanLiteral_of_isDigit hd hwhole hrest

theorem head_toList_toString (n : Int) :
    ∃ c rest, (toString n).toList = c :: rest ∧ (c = '-' ∨ c.isDigit) := by
  rw [toList_toString]
  split
  · exact ⟨'-', _, rfl, .inl rfl⟩
  · obtain ⟨d, more, hdigits, hd⟩ := exists_toDigits_eq_cons n.natAbs
    exact ⟨d, more, hdigits, .inr hd⟩

theorem scanToken_of_number {c : Char} (h : c = '-' ∨ c.isDigit) (rest : List Char) :
    scanToken c rest = scanNumber (c :: rest) := by
  unfold scanToken
  split
  case h_11 =>
    rw [if_pos]
    simpa using h
  all_goals exact absurd h (by decide)

theorem isSpace_of_number {c : Char} (h : c = '-' ∨ c.isDigit) : isSpace c = false := by
  unfold isSpace
  rcases h with rfl | hdigit
  · rfl
  · have : c ≠ ' ' ∧ c ≠ '\n' ∧ c ≠ '\t' ∧ c ≠ '\r' := by
      refine ⟨?_, ?_, ?_, ?_⟩ <;> rintro rfl <;> contradiction
    simp [this]

theorem tokens_toString {n : Int} (fits : FitsWord n) {rest : List Char}
    (hrest : EndsNumber rest) :
    tokens ((toString n).toList ++ rest) = .number (.ok (.whole n fits)) :: tokens rest := by
  have hscan : scanNumber ((toString n).toList ++ rest) =
      (.number (.ok (.whole n fits)), rest) := by
    rw [scanNumber, scanLiteral_toString n hrest]
    simp only [Literal.value_ofInt fits]
  obtain ⟨c, more, htext, hc⟩ := head_toList_toString n
  rw [htext] at hscan ⊢
  rw [List.cons_append] at hscan ⊢
  rw [tokens_cons, isSpace_of_number hc, scanToken_of_number hc, hscan]
  rfl

/-! ## Words -/

theorem tokens_null (rest : List Char) : tokens ("null".toList ++ rest) = .null :: tokens rest := by
  simp [tokens_cons, isSpace, scanToken, scanWord, dropWord]

theorem tokens_true (rest : List Char) :
    tokens ("true".toList ++ rest) = .bool true :: tokens rest := by
  simp [tokens_cons, isSpace, scanToken, scanWord, dropWord]

theorem tokens_false (rest : List Char) :
    tokens ("false".toList ++ rest) = .bool false :: tokens rest := by
  simp [tokens_cons, isSpace, scanToken, scanWord, dropWord]

end Relabel.Json

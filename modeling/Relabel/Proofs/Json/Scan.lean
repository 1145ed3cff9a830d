import Mathlib.Data.List.TakeDrop
import Relabel.Proofs.Json.Outcome

/-!
# Scanning without a bound

A token leaves less of the text than stood before it.  So the bound on the number of tokens is
never met, and the tokens of a text follow the text one by one.
-/

namespace Relabel.Json

/-! ## What a token leaves -/

theorem length_scanUnits_le (rest : List Char) : (scanUnits rest).2.2.length ≤ rest.length := by
  fun_induction scanUnits rest <;> simp_all <;> omega

theorem length_scanText_le (rest : List Char) : (scanText rest).2.length ≤ rest.length := by
  simp only [scanText]
  cases (scanUnits rest).2.1.fault? with
  | none => exact length_scanUnits_le rest
  | some skipped =>
      cases textOfUnits (scanUnits rest).2.1 (scanUnits rest).1 <;> exact Nat.zero_le _

theorem length_dropWord_le {word rest left : List Char} (h : dropWord word rest = .ok left) :
    left.length ≤ rest.length := by
  fun_induction dropWord word rest with
  | case1 rest =>
      cases h
      exact Nat.le_refl _
  | case2 => cases h
  | case3 word c rest ih => exact Nat.le_succ_of_le (ih h)
  | case4 => cases h

theorem length_scanWord_le (token : Token) (letters : String) (rest : List Char) :
    (scanWord token letters rest).2.length ≤ rest.length := by
  unfold scanWord
  cases hdrop : dropWord letters.toList rest with
  | ok left => exact length_dropWord_le hdrop
  | error fault => exact Nat.zero_le _

theorem scanDigits_eq_ok {rest left : List Char} {digits : List Nat}
    (h : scanDigits rest = .ok (digits, left)) :
    ∃ taken, taken ≠ [] ∧ rest = taken ++ left ∧ digits = taken.map digitValue := by
  have hspan := rest.takeWhile_append_dropWhile (p := Char.isDigit)
  rw [scanDigits, List.span_eq_takeWhile_dropWhile] at h
  generalize rest.takeWhile Char.isDigit = taken at h hspan
  generalize rest.dropWhile Char.isDigit = dropped at h hspan
  cases taken with
  | nil => cases dropped <;> cases h
  | cons c taken =>
      cases h
      exact ⟨c :: taken, List.cons_ne_nil _ _, hspan.symm, rfl⟩

theorem length_scanDigits_lt {rest left : List Char} {digits : List Nat}
    (h : scanDigits rest = .ok (digits, left)) : left.length < rest.length := by
  obtain ⟨taken, hne, rfl, -⟩ := scanDigits_eq_ok h
  have := List.length_pos_iff.mpr hne
  rw [List.length_append]
  omega

theorem length_scanWhole_lt {rest left : List Char} {digits : List Nat}
    (h : scanWhole rest = .ok (digits, left)) : left.length < rest.length := by
  obtain ⟨⟨found, left'⟩, hscan, h⟩ := bind_eq_ok_iff.mp h
  have hlength := length_scanDigits_lt hscan
  dsimp only at h
  split at h
  · cases h
  · cases h
    exact hlength

theorem length_scanFraction_le {rest left : List Char} {fraction : Option (List Nat)}
    (h : scanFraction rest = .ok (fraction, left)) : left.length ≤ rest.length := by
  unfold scanFraction at h
  split at h
  · obtain ⟨⟨digits, left'⟩, hscan, h⟩ := bind_eq_ok_iff.mp h
    cases h
    exact Nat.le_succ_of_le (Nat.le_of_lt (length_scanDigits_lt hscan))
  · cases h
    exact Nat.le_refl _

theorem length_scanPower_le {sign : Int} {rest left : List Char} {power : Option Int}
    (h : scanPower sign rest = .ok (power, left)) : left.length ≤ rest.length := by
  obtain ⟨⟨digits, left'⟩, hscan, h⟩ := bind_eq_ok_iff.mp h
  cases h
  exact Nat.le_of_lt (length_scanDigits_lt hscan)

theorem length_scanExponent_le {rest left : List Char} {exponent : Option Int}
    (h : scanExponent rest = .ok (exponent, left)) : left.length ≤ rest.length := by
  unfold scanExponent at h
  split at h
  · cases h
    exact Nat.le_refl _
  · split at h
    · split at h
      · exact Nat.le_succ_of_le (Nat.le_succ_of_le (length_scanPower_le h))
      · exact Nat.le_succ_of_le (Nat.le_succ_of_le (length_scanPower_le h))
      · exact Nat.le_succ_of_le (length_scanPower_le h)
    · cases h
      exact Nat.le_refl _

theorem length_scanLiteral_lt {rest left : List Char} {literal : Literal}
    (h : scanLiteral rest = .ok (literal, left)) : left.length < rest.length := by
  simp only [scanLiteral, bind_eq_ok_iff, pure_eq_ok_iff] at h
  obtain ⟨⟨whole, afterWhole⟩, hwhole, ⟨fraction, afterFraction⟩, hfraction,
    ⟨exponent, afterExponent⟩, hexponent, heq⟩ := h
  cases heq
  have hwhole : afterWhole.length < rest.length := by
    refine Nat.lt_of_lt_of_le (length_scanWhole_lt hwhole) ?_
    split
    · exact Nat.le_succ _
    · exact Nat.le_refl _
  have hfraction := length_scanFraction_le hfraction
  have hexponent := length_scanExponent_le hexponent
  exact Nat.lt_of_le_of_lt hexponent (Nat.lt_of_le_of_lt hfraction hwhole)

theorem length_scanNumber_lt (rest : List Char) (hne : rest ≠ []) :
    (scanNumber rest).2.length < rest.length := by
  unfold scanNumber
  cases hscan : scanLiteral rest with
  | error fault => exact List.length_pos_iff.mpr hne
  | ok found =>
      have hlength := length_scanLiteral_lt hscan
      cases hvalue : found.1.value <;> simpa only [hvalue] using hlength

theorem length_scanToken_le (c : Char) (rest : List Char) :
    (scanToken c rest).2.length ≤ rest.length := by
  unfold scanToken
  split
  case h_7 => exact length_scanText_le rest
  case h_8 => exact length_scanWord_le _ _ rest
  case h_9 => exact length_scanWord_le _ _ rest
  case h_10 => exact length_scanWord_le _ _ rest
  case h_11 =>
    split
    · exact Nat.le_of_lt_succ (length_scanNumber_lt _ (List.cons_ne_nil _ _))
    · exact Nat.zero_le _
  all_goals exact Nat.le_refl _

/-! ## Tokens one by one -/

theorem scanTokens_eq_scanTokens {m n : Nat} {text : List Char} (hm : text.length ≤ m)
    (hn : text.length ≤ n) : scanTokens m text = scanTokens n text := by
  induction m generalizing n text with
  | zero =>
      rw [List.length_eq_zero_iff.mp (Nat.le_zero.mp hm)]
      cases n <;> rfl
  | succ m ih =>
      cases text with
      | nil => cases n <;> rfl
      | cons c rest =>
          cases n with
          | zero => cases hn
          | succ n =>
              have hm := Nat.le_of_succ_le_succ hm
              have hn := Nat.le_of_succ_le_succ hn
              have htoken := length_scanToken_le c rest
              simp only [scanTokens]
              rw [ih hm hn, ih (Nat.le_trans htoken hm) (Nat.le_trans htoken hn)]

@[simp] theorem tokens_nil : tokens [] = [] := rfl

theorem tokens_cons (c : Char) (rest : List Char) :
    tokens (c :: rest) =
      if isSpace c then tokens rest
      else (scanToken c rest).1 :: tokens (scanToken c rest).2 := by
  simp only [tokens, List.length_cons, scanTokens]
  rw [scanTokens_eq_scanTokens (length_scanToken_le c rest) (Nat.le_refl _)]

end Relabel.Json

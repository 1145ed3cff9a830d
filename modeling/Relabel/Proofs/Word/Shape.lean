import Relabel.Proofs.Word.Ascii

/-!
# The words of ASCII identifiers

A word of an ASCII identifier is a run of digits, a run of capitals, a run of small letters, or
a capital before small letters.  The cuts are made by looking at two or three characters, so
the shape of a whole word is found by induction from its end.
-/

namespace Relabel.Word

open Relabel.Unicode

theorem split_cons_of_not_isAlphanumeric {x : Char} (hx : ¬ isAlphanumeric x)
    (rest : List Char) : split (x :: rest) = split rest := by
  cases rest <;> simp [split, hx]

theorem split_cons_of_isAlphanumeric {x : Char} (hx : isAlphanumeric x) (rest : List Char) :
    ∃ tail words, split (x :: rest) = (x :: tail) :: words ∧ tail <+: rest := by
  induction rest generalizing x with
  | nil => exact ⟨[], [], by simp [split, hx], List.nil_prefix⟩
  | cons y rest ih =>
      by_cases hy : isAlphanumeric y ∧ ¬ startsWord x y (rest.head?.filter isAlphanumeric)
      · obtain ⟨tail, words, hsplit, hstart⟩ := ih hy.1
        refine ⟨y :: tail, words, ?_, ?_⟩
        · simp [split, hx, hy, hsplit, glue]
        · simpa using hstart
      · refine ⟨[], split (y :: rest), ?_, List.nil_prefix⟩
        rw [split, if_neg (by simp [hx]), if_neg (by simpa using hy)]

inductive AsciiWord : List Char → Prop where
  | digits {word : List Char} (nonempty : word ≠ []) (all : ∀ c ∈ word, c.isDigit) :
      AsciiWord word
  | capitals {word : List Char} (nonempty : word ≠ []) (all : ∀ c ∈ word, c.isUpper) :
      AsciiWord word
  | small {word : List Char} (nonempty : word ≠ []) (all : ∀ c ∈ word, c.isLower) :
      AsciiWord word
  | capitalized {first : Char} {rest : List Char} (capital : first.isUpper)
      (nonempty : rest ≠ []) (all : ∀ c ∈ rest, c.isLower) : AsciiWord (first :: rest)

theorem asciiWord_singleton {x : Char} (hascii : isAscii x) (hx : isAlphanumeric x) :
    AsciiWord [x] := by
  rw [isAlphanumeric_of_isAscii hascii] at hx
  simp only [Bool.or_eq_true, or_assoc] at hx
  rcases hx with hupper | hlower | hdigit
  · exact .capitals (by simp) (by simpa using hupper)
  · exact .small (by simp) (by simpa using hlower)
  · exact .digits (by simp) (by simpa using hdigit)

private theorem AsciiWord.cons {x y : Char} {tail rest : List Char} (hx : isAscii x)
    (halpha : isAlphanumeric x) (hascii : ∀ c ∈ y :: rest, isAscii c)
    (hword : AsciiWord (y :: tail)) (hstart : tail <+: rest)
    (hjoin : startsWord x y (rest.head?.filter isAlphanumeric) = false) :
    AsciiWord (x :: y :: tail) := by
  have hy : isAscii y := hascii y (by simp)
  simp only [startsWord, isLowercase_of_isAscii hx, isUppercase_of_isAscii hx,
    isUppercase_of_isAscii hy, Bool.or_eq_false_iff, bne_eq_false_iff_eq] at hjoin
  obtain ⟨⟨hturn, hdigits⟩, hacronym⟩ := hjoin
  rw [isAlphanumeric_of_isAscii hx] at halpha
  cases hword with
  | digits nonempty all =>
      have hxdigit : x.isDigit := by rw [hdigits]; exact all y (by simp)
      refine .digits (by simp) ?_
      simpa [hxdigit] using all
  | capitals nonempty all =>
      have hyupper : y.isUpper := all y (by simp)
      have hydigit := (isLower_isDigit_of_isUpper hyupper).2
      have hxlower : x.isLower = false := by simpa [hyupper] using hturn
      have hxupper : x.isUpper := by simpa [hdigits, hydigit, hxlower] using halpha
      refine .capitals (by simp) ?_
      simpa [hxupper] using all
  | small nonempty all =>
      have hylower : y.isLower := all y (by simp)
      have hydigit := (isUpper_isDigit_of_isLower hylower).2
      rcases Bool.eq_false_or_eq_true x.isUpper with hxupper | hxupper
      · exact .capitalized hxupper (by simp) all
      · have hxlower : x.isLower := by simpa [hdigits, hydigit, hxupper] using halpha
        refine .small (by simp) ?_
        simpa [hxlower] using all
  | capitalized capital nonempty all =>
      have hydigit := (isLower_isDigit_of_isUpper capital).2
      have hxlower : x.isLower = false := by simpa [capital] using hturn
      have hxupper : x.isUpper := by simpa [hdigits, hydigit, hxlower] using halpha
      obtain ⟨z, tail, rfl⟩ := List.exists_cons_of_ne_nil nonempty
      obtain ⟨after, rfl⟩ := hstart
      have hz : z.isLower := all z (by simp)
      have hzalpha := isAlphanumeric_of_isLower hz
      simp [hxupper, capital, hzalpha, isLowercase_of_isLower hz] at hacronym

theorem asciiWord_of_mem_split {identifier : List Char} (h : ∀ c ∈ identifier, isAscii c) :
    ∀ word ∈ split identifier, AsciiWord word := by
  fun_induction split identifier with
  | case1 => simp
  | case2 x hx => simpa using asciiWord_singleton (h x (by simp)) hx
  | case3 x hx => simp
  | case4 x y rest hx ih => exact ih fun c hc => h c (by simp [hc])
  | case5 x y rest hx hjoin ih =>
      simp only [Bool.and_eq_true, Bool.not_eq_true'] at hx hjoin
      obtain ⟨tail, words, hsplit, hstart⟩ := split_cons_of_isAlphanumeric hjoin.1 rest
      rw [hsplit] at ih ⊢
      have htail := ih fun c hc => h c (List.mem_cons_of_mem x hc)
      simp only [glue, List.mem_cons, forall_eq_or_imp] at htail ⊢
      exact ⟨htail.1.cons (h x (by simp)) (by simpa using hx)
        (fun c hc => h c (List.mem_cons_of_mem x hc)) hstart hjoin.2, htail.2⟩
  | case6 x y rest hx hcut ih =>
      simp only [List.mem_cons, forall_eq_or_imp]
      refine ⟨asciiWord_singleton (h x (by simp)) (by simpa using hx), ?_⟩
      exact ih fun c hc => h c (by simp [hc])

end Relabel.Word

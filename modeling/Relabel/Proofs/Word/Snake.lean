import Relabel.Convention
import Relabel.Proofs.Word.Cut
import Relabel.Proofs.Word.Pieces

/-!
# Snake case on ASCII identifiers

The snake form of an ASCII identifier is its words in lowercase with `_` between them.  These
lowercase words are runs of digits or of small letters, which are split at the `_` and nowhere
else, so the snake form of a snake form is that form.
-/

namespace Relabel.Word

open Relabel.Unicode

/-! ## Words in small letters -/

inductive PlainWord : List Char → Prop where
  | digits {word : List Char} (nonempty : word ≠ []) (all : ∀ c ∈ word, c.isDigit) :
      PlainWord word
  | small {word : List Char} (nonempty : word ≠ []) (all : ∀ c ∈ word, c.isLower) :
      PlainWord word

theorem toLower_of_isDigit {c : Char} (h : c.isDigit) : c.toLower = c :=
  forall_ascii (P := fun c => c.isDigit → c.toLower = c) (by decide +kernel)
    (isAscii_of_isDigit h) h

theorem toLower_of_isLower {c : Char} (h : c.isLower) : c.toLower = c :=
  forall_ascii (P := fun c => c.isLower → c.toLower = c) (by decide +kernel)
    (isAscii_of_isLower h) h

theorem isLower_toLower_of_isUpper {c : Char} (h : c.isUpper) : c.toLower.isLower :=
  forall_ascii (P := fun c => c.isUpper → c.toLower.isLower) (by decide +kernel)
    (isAscii_of_isUpper h) h

theorem lowercase_of_isAscii {word : List Char} (h : ∀ c ∈ word, isAscii c) :
    lowercase word = word.map Char.toLower := by
  fun_induction lowercase word with
  | case1 => rfl
  | case2 => exact absurd (h 'Σ' (by simp)) (by decide)
  | case3 c hc => simpa using toLowercase_of_isAscii (h c (by simp))
  | case4 c rest hrest ih =>
      rw [toLowercase_of_isAscii (h c (by simp)),
        ih fun d hd => h d (List.mem_cons_of_mem c hd)]
      rfl

theorem map_toLower_of_plain {word : List Char} (h : ∀ c ∈ word, c.isDigit ∨ c.isLower) :
    word.map Char.toLower = word := by
  rw [List.map_congr_left (g := id), List.map_id]
  intro c hc
  rcases h c hc with hdigit | hlower
  · exact toLower_of_isDigit hdigit
  · exact toLower_of_isLower hlower

theorem AsciiWord.plainWord_lowercase {word : List Char} (h : AsciiWord word) :
    PlainWord (lowercase word) := by
  rw [lowercase_of_isAscii h.isAscii]
  cases h with
  | digits nonempty all =>
      rw [map_toLower_of_plain fun c hc => .inl (all c hc)]
      exact .digits nonempty all
  | capitals nonempty all =>
      refine .small (by simpa using nonempty) ?_
      intro c hc
      obtain ⟨d, hd, rfl⟩ := List.mem_map.mp hc
      exact isLower_toLower_of_isUpper (all d hd)
  | small nonempty all =>
      rw [map_toLower_of_plain fun c hc => .inr (all c hc)]
      exact .small nonempty all
  | capitalized capital nonempty all =>
      rw [List.map_cons, map_toLower_of_plain fun c hc => .inr (all c hc)]
      refine .small (List.cons_ne_nil _ _) ?_
      exact List.forall_mem_cons.mpr ⟨isLower_toLower_of_isUpper capital, all⟩

namespace PlainWord

variable {word : List Char}

theorem asciiWord (h : PlainWord word) : AsciiWord word := by
  cases h with
  | digits nonempty all => exact .digits nonempty all
  | small nonempty all => exact .small nonempty all

theorem lowercase_eq (h : PlainWord word) : lowercase word = word := by
  rw [lowercase_of_isAscii h.asciiWord.isAscii]
  cases h with
  | digits _ all => exact map_toLower_of_plain fun c hc => .inl (all c hc)
  | small _ all => exact map_toLower_of_plain fun c hc => .inr (all c hc)

theorem split_eq (h : PlainWord word) : split word = [word] :=
  h.asciiWord.split_eq

theorem not_isUppercase (h : PlainWord word) : ∀ c ∈ word, isUppercase c = false := by
  intro c hc
  cases h with
  | digits _ all => exact not_isUppercase_of_isDigit (all c hc)
  | small _ all => exact not_isUppercase_of_isLower (all c hc)

end PlainWord

theorem mem_joined {words : List (List Char)} {c : Char}
    (hc : c ∈ ['_'].intercalate words) : c = '_' ∨ ∃ word ∈ words, c ∈ word := by
  induction words with
  | nil => simp at hc
  | cons word words ih =>
      cases words with
      | nil => exact .inr ⟨word, by simp, by simpa using hc⟩
      | cons next words =>
          simp only [List.intercalate_cons_cons, List.mem_append, List.mem_singleton] at hc
          rcases hc with (hword | hseparator) | hwords
          · exact .inr ⟨word, by simp, hword⟩
          · exact .inl hseparator
          · rcases ih hwords with hseparator | ⟨other, hother, hmem⟩
            · exact .inl hseparator
            · exact .inr ⟨other, List.mem_cons_of_mem word hother, hmem⟩

end Relabel.Word

/-! ## The snake form -/

namespace Relabel.Convention

open Relabel.Unicode Relabel.Word

variable {identifier : List Char}

theorem snake_write_of_isAscii (h : ∀ c ∈ identifier, isAscii c) :
    snake.write identifier = ['_'].intercalate ((split identifier).map lowercase) := by
  rw [write, pieces_of_isAscii h, joinSnake]

theorem plainWord_of_mem_lowercase_split (h : ∀ c ∈ identifier, isAscii c) :
    ∀ word ∈ (split identifier).map lowercase, PlainWord word := by
  intro word hword
  obtain ⟨original, horiginal, rfl⟩ := List.mem_map.mp hword
  exact (asciiWord_of_mem_split h original horiginal).plainWord_lowercase

theorem isAscii_snake_write (h : ∀ c ∈ identifier, isAscii c) :
    ∀ c ∈ snake.write identifier, isAscii c := by
  intro c hc
  rw [snake_write_of_isAscii h] at hc
  rcases mem_joined hc with rfl | ⟨word, hword, hmem⟩
  · decide
  · exact (plainWord_of_mem_lowercase_split h word hword).asciiWord.isAscii c hmem

theorem split_snake_write (h : ∀ c ∈ identifier, isAscii c) :
    split (snake.write identifier) = (split identifier).map lowercase := by
  have hseparator : isAlphanumeric '_' = false := by decide
  have hwords := plainWord_of_mem_lowercase_split h
  rw [snake_write_of_isAscii h, split_joined (by simp) (by simp [hseparator])
    fun word hword => (hwords word hword).split_eq]

theorem snake_write_write (h : ∀ c ∈ identifier, isAscii c) :
    snake.write (snake.write identifier) = snake.write identifier := by
  rw [snake_write_of_isAscii (isAscii_snake_write h), split_snake_write h,
    snake_write_of_isAscii h, List.map_map]
  congr 1
  exact List.map_congr_left fun word hword =>
    (asciiWord_of_mem_split h word hword).plainWord_lowercase.lowercase_eq

theorem snake_applyChars_applyChars (boundary : Boundary) (h : ∀ c ∈ identifier, isAscii c) :
    snake.applyChars boundary (snake.applyChars boundary identifier) =
      snake.applyChars boundary identifier := by
  simp only [applyChars]
  split
  · rw [snake_write_write h, ite_self]
  · rfl

theorem snake_write_underscore (h : ∀ c ∈ identifier, isAscii c) :
    snake.write ('_' :: identifier) = snake.write identifier := by
  have hunderscore : ∀ c ∈ '_' :: identifier, isAscii c := by
    simpa using ⟨by decide, h⟩
  rw [snake_write_of_isAscii hunderscore, snake_write_of_isAscii h,
    split_cons_of_not_isAlphanumeric (by decide)]

/-! ## Names that start with a digit -/

theorem snake_write_of_digits (hne : identifier ≠ []) (h : ∀ c ∈ identifier, c.isDigit) :
    snake.write identifier = identifier := by
  have hword : PlainWord identifier := .digits hne h
  rw [snake_write_of_isAscii hword.asciiWord.isAscii, hword.split_eq]
  simp [hword.lowercase_eq]

theorem head?_snake_write {digit : Char} (hdigit : digit.isDigit)
    (h : ∀ c ∈ digit :: identifier, isAscii c) :
    (snake.write (digit :: identifier)).head? = some digit := by
  have halpha := isAlphanumeric_of_isDigit hdigit
  obtain ⟨tail, words, hsplit, -⟩ := split_cons_of_isAlphanumeric halpha identifier
  have hword := asciiWord_of_mem_split h (digit :: tail) (by simp [hsplit])
  rw [snake_write_of_isAscii h, hsplit, List.map_cons, lowercase_of_isAscii hword.isAscii]
  cases words <;> simp [toLower_of_isDigit hdigit]

theorem snake_write_eq_self_iff {digit : Char} (hdigit : digit.isDigit)
    (h : ∀ c ∈ digit :: identifier, isAscii c) (hunderscore : '_' ∉ digit :: identifier) :
    snake.write (digit :: identifier) = digit :: identifier ↔
      ∀ c ∈ digit :: identifier, c.isDigit := by
  refine ⟨fun heq => ?_, fun hall => snake_write_of_digits (by simp) hall⟩
  have hhead := head?_snake_write hdigit h
  have hplain := plainWord_of_mem_lowercase_split h
  rw [snake_write_of_isAscii h] at heq hhead
  cases hwords : (split (digit :: identifier)).map lowercase with
  | nil => simp [hwords] at hhead
  | cons word words =>
      cases words with
      | nil =>
          rw [hwords, List.intercalate_singleton] at heq
          have hword := hplain word (by simp [hwords])
          rw [heq] at hword
          cases hword with
          | digits _ all => exact all
          | small _ all =>
              have hlower := all digit (by simp)
              simp [(isUpper_isDigit_of_isLower hlower).2] at hdigit
      | cons next words =>
          rw [hwords, List.intercalate_cons_cons] at heq
          exact absurd (heq ▸ by simp : '_' ∈ digit :: identifier) hunderscore

end Relabel.Convention

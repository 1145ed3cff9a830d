import Mathlib.Data.List.Basic
import Relabel.Proofs.Word.Boundary
import Relabel.Proofs.Word.Titled

/-!
# The conventions on ASCII identifiers

Every convention spells an ASCII identifier by its words: in small letters with `_` between them, or
with a capital each.  The segmentation and the scan for case that come after the split leave these
words as they are.  The snake form has the same words in small letters, so that every convention
makes of it what it makes of the identifier.
-/

namespace Relabel

open Relabel.Unicode

/-- A word with a capital and small letters after it. -/
def titled (word : String) : String :=
  match word.toList with
  | [] => ""
  | first :: rest => String.ofList (first.toUpper :: rest.map Char.toLower)

/-- The first word in small letters, the others with a capital each. -/
def joinedCamel : List String → String
  | [] => ""
  | first :: others => first.toLower ++ String.join (others.map titled)

namespace Word

theorem toList_toLower (word : String) : word.toLower.toList = word.toList.map Char.toLower :=
  String.toList_map

theorem lowercase_eq_toLower {word : List Char} (h : ∀ c ∈ word, isAscii c) :
    lowercase word = (String.ofList word).toLower.toList := by
  rw [lowercase_of_isAscii h, toList_toLower, String.toList_ofList]

theorem capitalize_eq_titled {word : List Char} (h : ∀ c ∈ word, isAscii c) :
    capitalize word = (titled (String.ofList word)).toList := by
  cases word with
  | nil => rfl
  | cons first rest =>
      rw [capitalize_of_isAscii h]
      simp [titled]

variable {words : List (List Char)}

theorem joinPascal_eq_join (h : ∀ word ∈ words, ∀ c ∈ word, isAscii c) :
    joinPascal words = (String.join ((words.map String.ofList).map titled)).toList := by
  rw [joinPascal, String.toList_join, List.flatMap_map, List.flatMap_map]
  exact List.flatMap_congr fun word hword => capitalize_eq_titled (h word hword)

theorem joinSnake_eq_intercalate (h : ∀ word ∈ words, ∀ c ∈ word, isAscii c) :
    joinSnake words =
      ("_".intercalate ((words.map String.ofList).map String.toLower)).toList := by
  rw [joinSnake, String.toList_intercalate, List.map_map, List.map_map]
  congr 1
  exact List.map_congr_left fun word hword => lowercase_eq_toLower (h word hword)

theorem joinCamel_eq_joinedCamel (h : ∀ word ∈ words, ∀ c ∈ word, isAscii c) :
    joinCamel words = (joinedCamel (words.map String.ofList)).toList := by
  cases words with
  | nil => rfl
  | cons first others =>
      rw [joinCamel, lowercase_eq_toLower (h first (by simp)),
        joinPascal_eq_join fun word hword => h word (List.mem_cons_of_mem first hword),
        List.map_cons, joinedCamel, String.toList_append]

end Word

namespace Convention

open Word

variable {identifier : String}

/--
On an ASCII identifier the pieces are the words, and the conventions spell these.  Camel and snake
case leave an identifier alone that nothing divides.
-/
theorem spelled_by_words (boundary : Boundary) (h : ∀ c ∈ identifier.toList, isAscii c) :
    pascal.apply boundary identifier = String.join ((words identifier).map titled) ∧
    snake.apply boundary identifier =
      (if boundary.divides identifier then
        "_".intercalate ((words identifier).map String.toLower)
      else identifier) ∧
    camel.apply boundary identifier =
      (if boundary.divides identifier then joinedCamel (words identifier) else identifier) ∧
    (pieces identifier.toList).map String.ofList = words identifier := by
  have hwords : ∀ word ∈ split identifier.toList, ∀ c ∈ word, isAscii c :=
    fun word hword => (asciiWord_of_mem_split h word hword).isAscii
  have hpieces := pieces_of_isAscii h
  refine ⟨?_, ?_, ?_, ?_⟩
  · rw [← String.toList_inj, toList_apply, pascal_applyChars, write, hpieces,
      joinPascal_eq_join hwords, words]
  · split
    · next hdivides =>
        rw [← String.toList_inj, toList_apply, snake.applyChars_of_divides hdivides, write, hpieces,
          joinSnake_eq_intercalate hwords, words]
    · next hdivides =>
        rw [← String.toList_inj, toList_apply,
          snake.applyChars_of_not_divides (by decide) (eq_false_of_ne_true hdivides)]
  · split
    · next hdivides =>
        rw [← String.toList_inj, toList_apply, camel.applyChars_of_divides hdivides, write, hpieces,
          joinCamel_eq_joinedCamel hwords, words]
    · next hdivides =>
        rw [← String.toList_inj, toList_apply,
          camel.applyChars_of_not_divides (by decide) (eq_false_of_ne_true hdivides)]
  · rw [hpieces, words]

theorem spelled_acronym_and_number :
    (∀ c ∈ "parcelHTTPRoute2".toList, isAscii c) ∧
    words "parcelHTTPRoute2" = ["parcel", "HTTP", "Route", "2"] ∧
    pascal.apply .standard "parcelHTTPRoute2" = "ParcelHttpRoute2" ∧
    snake.apply .standard "parcelHTTPRoute2" = "parcel_http_route_2" ∧
    camel.apply .standard "parcelHTTPRoute2" = "parcelHttpRoute2" := by
  have hascii : ∀ c ∈ "parcelHTTPRoute2".toList, isAscii c := by simp [isAscii]
  have hwords : words "parcelHTTPRoute2" = ["parcel", "HTTP", "Route", "2"] := by decide
  have hdivides : Boundary.standard.divides "parcelHTTPRoute2" := by decide
  obtain ⟨hpascal, hsnake, hcamel, -⟩ := spelled_by_words .standard hascii
  rw [hwords] at hpascal
  rw [if_pos hdivides, hwords] at hsnake hcamel
  refine ⟨hascii, hwords, hpascal.trans ?_, hsnake.trans ?_, hcamel.trans ?_⟩
  · decide
  · rw [← String.toList_inj]
    simp [toList_toLower]
  · rw [← String.toList_inj]
    simp [joinedCamel, titled, toList_toLower]

end Convention

/-! ## From the snake form -/

namespace Word

theorem toUpper_toLower {c : Char} (h : isAscii c) : c.toLower.toUpper = c.toUpper :=
  forall_ascii (P := fun c => c.toLower.toUpper = c.toUpper) (by decide +kernel) h

theorem toLower_toLower {c : Char} (h : isAscii c) : c.toLower.toLower = c.toLower :=
  forall_ascii (P := fun c => c.toLower.toLower = c.toLower) (by decide +kernel) h

theorem AsciiWord.capitalize_lowercase {word : List Char} (h : AsciiWord word) :
    capitalize (lowercase word) = capitalize word := by
  have hascii := h.isAscii
  have hsmall := h.plainWord_lowercase.asciiWord.isAscii
  rw [lowercase_of_isAscii hascii] at hsmall ⊢
  cases word with
  | nil => rfl
  | cons first rest =>
      rw [List.map_cons] at hsmall ⊢
      rw [capitalize_of_isAscii hsmall, capitalize_of_isAscii hascii,
        toUpper_toLower (hascii first (by simp)), List.map_map]
      congr 1
      exact List.map_congr_left fun c hc =>
        toLower_toLower (hascii c (List.mem_cons_of_mem first hc))

variable {words : List (List Char)}

theorem joinPascal_map_lowercase (h : ∀ word ∈ words, AsciiWord word) :
    joinPascal (words.map lowercase) = joinPascal words := by
  rw [joinPascal, List.flatMap_map]
  exact List.flatMap_congr fun word hword => (h word hword).capitalize_lowercase

theorem joinCamel_map_lowercase (h : ∀ word ∈ words, AsciiWord word) :
    joinCamel (words.map lowercase) = joinCamel words := by
  cases words with
  | nil => rfl
  | cons first others =>
      rw [List.map_cons, joinCamel, (h first (by simp)).plainWord_lowercase.lowercase_eq,
        joinPascal_map_lowercase fun word hword => h word (List.mem_cons_of_mem first hword),
        joinCamel]

end Word

namespace Convention

open Word

section

variable {boundary : Boundary} {name : List Char}

theorem write_snake_write (convention : Convention) (h : ∀ c ∈ name, isAscii c) :
    convention.write (snake.write name) = convention.write name := by
  have hwords := asciiWord_of_mem_split h
  have hsnake := isAscii_snake_write h
  cases convention with
  | snake => exact snake_write_write h
  | pascal =>
      rw [pascal_write_of_isAscii hsnake, pascal_write_of_isAscii h, split_snake_write h,
        joinPascal_map_lowercase hwords]
  | camel =>
      rw [camel_write_of_isAscii hsnake, camel_write_of_isAscii h, split_snake_write h,
        joinCamel_map_lowercase hwords]

theorem write_eq_snake_write {convention : Convention} (hconvention : convention ≠ pascal)
    (h : ∀ c ∈ name, isAscii c) (hsingle : '_' ∉ snake.write name) :
    convention.write name = snake.write name := by
  cases convention with
  | snake => rfl
  | pascal => contradiction
  | camel =>
      rw [snake_write_of_isAscii h] at hsingle ⊢
      rw [camel_write_of_isAscii h]
      cases hwords : split name with
      | nil => rfl
      | cons first others =>
          cases others with
          | nil => simp [joinCamel, joinPascal]
          | cons second others =>
              rw [hwords, List.map_cons, List.map_cons, List.intercalate_cons_cons] at hsingle
              simp at hsingle

theorem applyChars_snake_write (convention : Convention) (h : ∀ c ∈ name, isAscii c) :
    convention.applyChars boundary (snake.write name) = convention.write name := by
  by_cases happlies : convention.appliesTo boundary (snake.write name)
  · rw [applyChars, if_pos happlies, write_snake_write convention h]
  · obtain ⟨hconvention, hdivides⟩ :
        convention ≠ pascal ∧ boundary.dividesChars (snake.write name) = false := by
      simpa [appliesTo] using happlies
    have hsingle : '_' ∉ snake.write name := fun hmem => by
      simp [Boundary.dividesChars_of_separates boundary.separates_underscore hmem] at hdivides
    rw [applyChars, if_neg happlies, write_eq_snake_write hconvention h hsingle]

end

/--
The snake form of an ASCII identifier loses nothing that a convention needs: under every convention
it becomes what the identifier becomes.
-/
theorem apply_snake_apply (convention : Convention) (boundary : Boundary)
    (h : ∀ c ∈ identifier.toList, isAscii c) :
    convention.apply boundary (snake.apply boundary identifier) =
      convention.apply boundary identifier := by
  rw [← String.toList_inj, toList_apply, toList_apply, toList_apply]
  cases hdivides : boundary.dividesChars identifier.toList with
  | false => rw [snake.applyChars_of_not_divides (by decide) hdivides]
  | true =>
      rw [snake.applyChars_of_divides hdivides, convention.applyChars_of_divides hdivides,
        applyChars_snake_write convention h]

theorem camel_apply_snake_apply_of_trimmed_acronym :
    (∀ c ∈ "-ID_".toList, isAscii c) ∧ snake.apply .standard "-ID_" = "id" ∧
    Boundary.standard.divides "id" = false ∧
    camel.apply .standard (snake.apply .standard "-ID_") = camel.apply .standard "-ID_" ∧
    camel.apply .standard "-ID_" = "id" := by
  have hascii : ∀ c ∈ "-ID_".toList, isAscii c := by simp [isAscii]
  exact ⟨hascii, by decide, by decide, apply_snake_apply .camel .standard hascii, by decide⟩

end Convention

end Relabel

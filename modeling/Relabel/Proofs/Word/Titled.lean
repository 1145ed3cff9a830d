import Mathlib.Data.List.Chain
import Relabel.Proofs.Word.Cut
import Relabel.Proofs.Word.Snake

/-!
# Splitting capitalised words again

Pascal case writes ASCII words one after the other, each with a capital.  Most of the cuts between
them are found again by the split.  Two numbers grow together, which does no harm, and so do two
single letters, which become an acronym.  So a text of capitalised words keeps its form exactly if
no two single letters stand side by side in it.
-/

namespace Relabel.Word

open Relabel.Unicode

/-- A number, or a capital with small letters after it, if any. -/
inductive TitledWord : List Char → Prop where
  | digits {word : List Char} (nonempty : word ≠ []) (all : ∀ c ∈ word, c.isDigit) :
      TitledWord word
  | capitalized {first : Char} {rest : List Char} (capital : first.isUpper)
      (all : ∀ c ∈ rest, c.isLower) : TitledWord (first :: rest)

def SingleLetter (word : List Char) : Prop :=
  ∃ c, word = [c] ∧ c.isAlpha

/-- No two single letters stand side by side. -/
def LettersApart (words : List (List Char)) : Prop :=
  words.IsChain fun first second => ¬ (SingleLetter first ∧ SingleLetter second)

/-! ## Capitals -/

theorem toUpper_of_isDigit {c : Char} (h : c.isDigit) : c.toUpper = c :=
  forall_ascii (P := fun c => c.isDigit → c.toUpper = c) (by decide +kernel)
    (isAscii_of_isDigit h) h

theorem toUpper_of_isUpper {c : Char} (h : c.isUpper) : c.toUpper = c :=
  forall_ascii (P := fun c => c.isUpper → c.toUpper = c) (by decide +kernel)
    (isAscii_of_isUpper h) h

theorem isUpper_toUpper_of_isLower {c : Char} (h : c.isLower) : c.toUpper.isUpper :=
  forall_ascii (P := fun c => c.isLower → c.toUpper.isUpper) (by decide +kernel)
    (isAscii_of_isLower h) h

theorem capitalize_of_isAscii {first : Char} {rest : List Char}
    (h : ∀ c ∈ first :: rest, isAscii c) :
    capitalize (first :: rest) = first.toUpper :: rest.map Char.toLower := by
  rw [capitalize, toUppercase_of_isAscii (h first (by simp)),
    lowercase_of_isAscii fun c hc => h c (List.mem_cons_of_mem first hc)]
  rfl

variable {word text : List Char} {words : List (List Char)}

theorem capitalize_of_digits (h : ∀ c ∈ word, c.isDigit) : capitalize word = word := by
  cases word with
  | nil => rfl
  | cons first rest =>
      rw [capitalize_of_isAscii fun c hc => isAscii_of_isDigit (h c hc),
        toUpper_of_isDigit (h first (by simp)), map_toLower_of_plain]
      exact fun c hc => .inl (h c (List.mem_cons_of_mem first hc))

namespace TitledWord

theorem asciiWord (h : TitledWord word) : AsciiWord word := by
  cases h with
  | digits nonempty all => exact .digits nonempty all
  | @capitalized first rest capital all =>
      cases rest with
      | nil => exact .capitals (by simp) (by simpa using capital)
      | cons c rest => exact .capitalized capital (by simp) all

theorem capitalize_eq (h : TitledWord word) : capitalize word = word := by
  have hascii := h.asciiWord.isAscii
  cases h with
  | digits _ all => exact capitalize_of_digits all
  | capitalized capital all =>
      rw [capitalize_of_isAscii hascii, toUpper_of_isUpper capital,
        map_toLower_of_plain fun c hc => .inr (all c hc)]

end TitledWord

theorem AsciiWord.digits_of_head {first : Char} {rest : List Char}
    (h : AsciiWord (first :: rest)) (hfirst : first.isDigit) :
    ∀ c ∈ first :: rest, c.isDigit := by
  cases h with
  | digits _ all => exact all
  | capitals _ all =>
      simp [(isLower_isDigit_of_isUpper (all first (by simp))).2] at hfirst
  | small _ all =>
      simp [(isUpper_isDigit_of_isLower (all first (by simp))).2] at hfirst
  | capitalized capital _ _ => simp [(isLower_isDigit_of_isUpper capital).2] at hfirst

theorem AsciiWord.titledWord_capitalize (h : AsciiWord word) : TitledWord (capitalize word) := by
  have hascii := h.isAscii
  cases h with
  | digits nonempty all =>
      rw [capitalize_of_digits all]
      exact .digits nonempty all
  | capitals nonempty all =>
      obtain ⟨first, rest, rfl⟩ := List.exists_cons_of_ne_nil nonempty
      rw [capitalize_of_isAscii hascii, toUpper_of_isUpper (all first (by simp))]
      refine .capitalized (all first (by simp)) ?_
      simpa using fun c hc => isLower_toLower_of_isUpper (all c (List.mem_cons_of_mem first hc))
  | small nonempty all =>
      obtain ⟨first, rest, rfl⟩ := List.exists_cons_of_ne_nil nonempty
      have hrest : ∀ c ∈ rest, c.isLower := fun c hc => all c (List.mem_cons_of_mem first hc)
      rw [capitalize_of_isAscii hascii, map_toLower_of_plain fun c hc => .inr (hrest c hc)]
      exact .capitalized (isUpper_toUpper_of_isLower (all first (by simp))) hrest
  | capitalized capital nonempty all =>
      rw [capitalize_of_isAscii hascii, toUpper_of_isUpper capital,
        map_toLower_of_plain fun c hc => .inr (all c hc)]
      exact .capitalized capital all

theorem singleLetter_capitalize_iff (h : ∀ c ∈ word, isAscii c) :
    SingleLetter (capitalize word) ↔ SingleLetter word := by
  cases word with
  | nil => simp [capitalize]
  | cons first rest =>
      have hletter : first.toUpper.isAlpha = first.isAlpha :=
        forall_ascii (P := fun c => c.toUpper.isAlpha = c.isAlpha) (by decide +kernel)
          (h first (by simp))
      rw [capitalize_of_isAscii h]
      simp [SingleLetter, hletter]

/-! ## Numbers ahead of a text -/

theorem split_digit {digit : Char} (hdigit : digit.isDigit) (h : ∀ c ∈ text, isAscii c) :
    ∃ more others, split (digit :: text) = (digit :: more) :: others ∧
      (∀ c ∈ more, c.isDigit) ∧ joinPascal (split text) = more ++ joinPascal others := by
  have halpha := isAlphanumeric_of_isDigit hdigit
  by_cases hjoined : ∃ next rest, text = next :: rest ∧ next.isDigit
  · obtain ⟨next, rest, rfl, hnext⟩ := hjoined
    have hnextalpha := isAlphanumeric_of_isDigit hnext
    obtain ⟨tail, others, hsplit, -⟩ := split_cons_of_isAlphanumeric hnextalpha rest
    have hmore := (asciiWord_of_mem_split h (next :: tail) (by simp [hsplit])).digits_of_head hnext
    refine ⟨next :: tail, others, ?_, hmore, ?_⟩
    · rw [split_cons_cons_of_not_parts halpha hnextalpha (not_parts_of_isDigit hdigit hnext), hsplit,
        glue]
    · rw [hsplit, joinPascal, List.flatMap_cons, capitalize_of_digits hmore, joinPascal]
  · refine ⟨[], split text, split_cons_of_parts halpha ?_, by simp, rfl⟩
    rintro next rest rfl -
    have hnext : ¬ next.isDigit := fun hnext => hjoined ⟨next, rest, rfl, hnext⟩
    exact .inr (.inl (by simp [hdigit, hnext]))

variable {number : List Char}

theorem split_digits_append (hne : number ≠ []) (hnumber : ∀ c ∈ number, c.isDigit)
    (h : ∀ c ∈ text, isAscii c) :
    ∃ more others, split (number ++ text) = (number ++ more) :: others ∧
      (∀ c ∈ more, c.isDigit) ∧ joinPascal (split text) = more ++ joinPascal others := by
  induction number with
  | nil => exact absurd rfl hne
  | cons digit rest ih =>
      have hdigit := hnumber digit (by simp)
      cases rest with
      | nil => exact split_digit hdigit h
      | cons next rest =>
          have hnext := hnumber next (by simp)
          obtain ⟨more, others, hsplit, hmore⟩ :=
            ih (by simp) fun c hc => hnumber c (List.mem_cons_of_mem digit hc)
          rw [List.cons_append] at hsplit
          refine ⟨more, others, ?_, hmore⟩
          rw [List.cons_append, List.cons_append,
            split_cons_cons_of_not_parts (isAlphanumeric_of_isDigit hdigit)
              (isAlphanumeric_of_isDigit hnext) (not_parts_of_isDigit hdigit hnext), hsplit]
          rfl

theorem joinPascal_split_digits_append (hne : number ≠ []) (hnumber : ∀ c ∈ number, c.isDigit)
    (h : ∀ c ∈ text, isAscii c) :
    joinPascal (split (number ++ text)) = number ++ joinPascal (split text) := by
  obtain ⟨more, others, hsplit, hmore, hjoin⟩ := split_digits_append hne hnumber h
  have hall : ∀ c ∈ number ++ more, c.isDigit := List.forall_mem_append.mpr ⟨hnumber, hmore⟩
  rw [hsplit, joinPascal, List.flatMap_cons, capitalize_of_digits hall, List.append_assoc, hjoin,
    joinPascal]

theorem joinCamel_split_digits_append (hne : number ≠ []) (hnumber : ∀ c ∈ number, c.isDigit)
    (h : ∀ c ∈ text, isAscii c) :
    joinCamel (split (number ++ text)) = number ++ joinPascal (split text) := by
  obtain ⟨more, others, hsplit, hmore, hjoin⟩ := split_digits_append hne hnumber h
  have hall : PlainWord (number ++ more) :=
    .digits (by simp [hne]) (List.forall_mem_append.mpr ⟨hnumber, hmore⟩)
  rw [hsplit, joinCamel, hall.lowercase_eq, List.append_assoc, hjoin]

/-! ## Capitalised words ahead of others -/

theorem isDigit_or_isUpper_of_flatten {y : Char} {after : List Char}
    (h : ∀ word ∈ words, TitledWord word) (htext : words.flatten = y :: after) :
    y.isDigit ∨ y.isUpper := by
  cases words with
  | nil => simp at htext
  | cons word words =>
      cases h word (by simp) with
      | digits nonempty all =>
          obtain ⟨c, rest, rfl⟩ := List.exists_cons_of_ne_nil nonempty
          obtain ⟨rfl, -⟩ : c = y ∧ _ := by simpa using htext
          exact .inl (all c (by simp))
      | @capitalized first rest capital all =>
          obtain ⟨rfl, -⟩ : first = y ∧ _ := by simpa using htext
          exact .inr capital

theorem not_isLowercase_of_flatten {y : Char} {after : List Char}
    (h : ∀ word ∈ words, TitledWord word) (htext : words.flatten = y :: after) :
    ¬ isLowercase y := by
  rcases isDigit_or_isUpper_of_flatten h htext with hdigit | hupper
  · simp [not_isLowercase_of_isDigit hdigit]
  · simp [not_isLowercase_of_isUpper hupper]

theorem split_append_of_isLower (hlast : ∀ x ∈ word.getLast?, x.isLower)
    (h : ∀ word ∈ words, TitledWord word) :
    split (word ++ words.flatten) = split word ++ split words.flatten := by
  refine split_append (fun y after htext _ => not_isLowercase_of_flatten h htext) ?_
  intro x hx y after htext _ _
  exact parts_of_isLower (hlast x hx) (isDigit_or_isUpper_of_flatten h htext)

theorem not_singleLetter_of_digits (h : ∀ c ∈ word, c.isDigit) : ¬ SingleLetter word := by
  rintro ⟨c, rfl, hletter⟩
  have hletters := isUpper_isLower_of_isDigit (h c (by simp))
  simp [isAlpha_eq, hletters] at hletter

theorem singleLetter_capital {capital : Char} (h : capital.isUpper) : SingleLetter [capital] :=
  ⟨capital, rfl, by simp [isAlpha_eq, h]⟩

theorem TitledWord.isUpper_of_singleLetter {c : Char} (h : TitledWord [c]) (hletter : c.isAlpha) :
    c.isUpper := by
  cases h with
  | digits _ all => exact absurd ⟨c, rfl, hletter⟩ (not_singleLetter_of_digits all)
  | capitalized capital _ => exact capital

theorem split_cons_of_isUpper {capital : Char} (hcapital : capital.isUpper)
    (h : ∀ word ∈ words, TitledWord word) (hletter : ∀ next ∈ words.head?, ¬ SingleLetter next) :
    split (capital :: words.flatten) = [capital] :: split words.flatten := by
  have hclass := isLower_isDigit_of_isUpper hcapital
  refine split_cons_of_parts (isAlphanumeric_of_isUpper hcapital) fun y after htext _ => ?_
  cases words with
  | nil => simp at htext
  | cons next others =>
      cases h next (by simp) with
      | digits nonempty all =>
          obtain ⟨digit, rest, rfl⟩ := List.exists_cons_of_ne_nil nonempty
          obtain ⟨rfl, -⟩ : digit = y ∧ _ := by simpa using htext
          exact .inr (.inl (by simp [hclass, all digit (by simp)]))
      | @capitalized second rest hsecond all =>
          cases rest with
          | nil => exact absurd (singleLetter_capital hsecond) (hletter _ rfl)
          | cons small rest =>
              obtain ⟨rfl, rfl⟩ : second = y ∧ small :: (rest ++ others.flatten) = after := by
                simpa using htext
              exact parts_of_acronym hcapital hsecond (all small (by simp))

theorem split_capitalized_append {first : Char} {rest : List Char} (capital : first.isUpper)
    (all : ∀ c ∈ rest, c.isLower) (h : ∀ word ∈ words, TitledWord word)
    (hletters : ∀ next ∈ words.head?, ¬ (SingleLetter (first :: rest) ∧ SingleLetter next)) :
    split (first :: rest ++ words.flatten) = (first :: rest) :: split words.flatten := by
  cases rest with
  | nil =>
      exact split_cons_of_isUpper capital h fun next hnext hletter =>
        hletters next hnext ⟨singleLetter_capital capital, hletter⟩
  | cons c rest =>
      have hlast : ∀ x ∈ (first :: c :: rest).getLast?, x.isLower := fun x hx =>
        all x (List.mem_of_getLast? (by simpa using hx))
      have hword : AsciiWord (first :: c :: rest) := .capitalized capital (by simp) all
      rw [split_append_of_isLower hlast h, hword.split_eq, List.singleton_append]

/-! ## Texts that keep their capitals -/

theorem isAscii_of_mem_flatten (h : ∀ word ∈ words, TitledWord word) :
    ∀ c ∈ words.flatten, isAscii c := by
  intro c hc
  obtain ⟨word, hword, hmem⟩ := List.mem_flatten.mp hc
  exact (h word hword).asciiWord.isAscii c hmem

theorem joinPascal_split_capitals_ne {first second : Char} (hfirst : first.isUpper)
    (hsecond : second.isUpper) (h : ∀ word ∈ words, TitledWord word) :
    joinPascal (split (first :: second :: words.flatten)) ≠ first :: second :: words.flatten := by
  have hascii : ∀ c ∈ first :: second :: words.flatten, isAscii c :=
    List.forall_mem_cons.mpr ⟨isAscii_of_isUpper hfirst,
      List.forall_mem_cons.mpr ⟨isAscii_of_isUpper hsecond, isAscii_of_mem_flatten h⟩⟩
  have hfirstalpha := isAlphanumeric_of_isUpper hfirst
  have hsecondalpha := isAlphanumeric_of_isUpper hsecond
  have hparts : ¬ Parts first second words.flatten := by
    refine not_parts_of_isUpper hfirst hsecond fun z hz => ?_
    obtain ⟨after, htext⟩ := List.head?_eq_some_iff.mp hz
    exact not_isLowercase_of_flatten h htext
  obtain ⟨tail, others, hsplit, -⟩ := split_cons_of_isAlphanumeric hsecondalpha words.flatten
  have hjoined :
      split (first :: second :: words.flatten) = (first :: second :: tail) :: others := by
    rw [split_cons_cons_of_not_parts hfirstalpha hsecondalpha hparts, hsplit, glue]
  have hword := asciiWord_of_mem_split hascii (first :: second :: tail) (by simp [hjoined])
  rw [hjoined, joinPascal, List.flatMap_cons, capitalize_of_isAscii hword.isAscii]
  intro heq
  have hsmall : second.toLower = second := by simpa using (List.cons.inj (List.cons.inj heq).2).1
  have hlower := isLower_toLower_of_isUpper hsecond
  rw [hsmall, (isLower_isDigit_of_isUpper hsecond).1] at hlower
  contradiction

/-- Capitalised words one after the other keep their capitals exactly if no two single letters
meet. -/
theorem joinPascal_split_flatten_eq_iff (h : ∀ word ∈ words, TitledWord word) :
    joinPascal (split words.flatten) = words.flatten ↔ LettersApart words := by
  induction words with
  | nil => simp [split, joinPascal, LettersApart]
  | cons word words ih =>
      have hwords : ∀ other ∈ words, TitledWord other :=
        fun other hother => h other (List.mem_cons_of_mem word hother)
      have hword := h word (by simp)
      rw [List.flatten_cons, LettersApart, List.isChain_cons, ← LettersApart, ← ih hwords]
      cases hword with
      | digits nonempty all =>
          rw [joinPascal_split_digits_append nonempty all (isAscii_of_mem_flatten hwords),
            List.append_cancel_left_eq]
          simp [not_singleLetter_of_digits all]
      | @capitalized first rest capital all =>
          by_cases hletters :
              ∀ next ∈ words.head?, ¬ (SingleLetter (first :: rest) ∧ SingleLetter next)
          · rw [split_capitalized_append capital all hwords hletters, joinPascal,
              List.flatMap_cons, (TitledWord.capitalized capital all).capitalize_eq,
              List.append_cancel_left_eq, joinPascal, and_iff_right hletters]
          · refine iff_of_false ?_ (fun hchain => hletters hchain.1)
            obtain ⟨next, hnext, ⟨_, hfirst, -⟩, second, rfl, hletter⟩ :
                ∃ next, words.head? = some next ∧ SingleLetter (first :: rest) ∧
                  SingleLetter next := by
              simpa using hletters
            obtain ⟨rfl, rfl⟩ := List.cons.inj hfirst
            obtain ⟨others, rfl⟩ := List.head?_eq_some_iff.mp hnext
            have hsecond := (hwords [second] (by simp)).isUpper_of_singleLetter hletter
            exact joinPascal_split_capitals_ne capital hsecond fun other hother =>
              hwords other (List.mem_cons_of_mem _ hother)

/-- In camel case the first word has no capital, and the others keep theirs as in Pascal case. -/
theorem joinCamel_split_append_eq_iff (hword : PlainWord word)
    (h : ∀ word ∈ words, TitledWord word) :
    joinCamel (split (word ++ words.flatten)) = word ++ words.flatten ↔ LettersApart words := by
  rw [← joinPascal_split_flatten_eq_iff h]
  have hplain := hword.lowercase_eq
  have hsplit := hword.split_eq
  cases hword with
  | digits nonempty all =>
      rw [joinCamel_split_digits_append nonempty all (isAscii_of_mem_flatten h),
        List.append_cancel_left_eq]
  | small _ all =>
      have hlast : ∀ x ∈ word.getLast?, x.isLower := fun x hx =>
        all x (List.mem_of_getLast? hx)
      rw [split_append_of_isLower hlast h, hsplit, List.singleton_append, joinCamel, hplain,
        List.append_cancel_left_eq]

theorem lettersApart_map_capitalize_iff (h : ∀ word ∈ words, ∀ c ∈ word, isAscii c) :
    LettersApart (words.map capitalize) ↔ LettersApart words := by
  rw [LettersApart, List.isChain_map]
  refine List.IsChain.iff_of_mem_imp fun first second hfirst hsecond => ?_
  rw [singleLetter_capitalize_iff (h first hfirst), singleLetter_capitalize_iff (h second hsecond)]

end Relabel.Word

/-! ## The Pascal and the camel form -/

namespace Relabel.Convention

open Relabel.Unicode Relabel.Word

variable {identifier : List Char}

theorem pascal_write_of_isAscii (h : ∀ c ∈ identifier, isAscii c) :
    pascal.write identifier = joinPascal (split identifier) := by
  rw [write, pieces_of_isAscii h]

theorem camel_write_of_isAscii (h : ∀ c ∈ identifier, isAscii c) :
    camel.write identifier = joinCamel (split identifier) := by
  rw [write, pieces_of_isAscii h]

theorem titledWord_of_mem_map_capitalize {words : List (List Char)}
    (h : ∀ word ∈ words, AsciiWord word) : ∀ word ∈ words.map capitalize, TitledWord word := by
  intro word hword
  obtain ⟨original, horiginal, rfl⟩ := List.mem_map.mp hword
  exact (h original horiginal).titledWord_capitalize

theorem pascal_write_eq_flatten (h : ∀ c ∈ identifier, isAscii c) :
    pascal.write identifier = ((split identifier).map capitalize).flatten := by
  rw [pascal_write_of_isAscii h, joinPascal, List.flatMap_def]

theorem isAscii_pascal_write (h : ∀ c ∈ identifier, isAscii c) :
    ∀ c ∈ pascal.write identifier, isAscii c := by
  rw [pascal_write_eq_flatten h]
  exact isAscii_of_mem_flatten (titledWord_of_mem_map_capitalize (asciiWord_of_mem_split h))

theorem pascal_write_write_eq_iff (h : ∀ c ∈ identifier, isAscii c) :
    pascal.write (pascal.write identifier) = pascal.write identifier ↔
      LettersApart (split identifier) := by
  have hwords := asciiWord_of_mem_split h
  rw [pascal_write_of_isAscii (isAscii_pascal_write h), pascal_write_eq_flatten h,
    joinPascal_split_flatten_eq_iff (titledWord_of_mem_map_capitalize hwords),
    lettersApart_map_capitalize_iff fun word hword => (hwords word hword).isAscii]

theorem camel_write_write_eq_iff (h : ∀ c ∈ identifier, isAscii c) :
    camel.write (camel.write identifier) = camel.write identifier ↔
      LettersApart (split identifier).tail := by
  have hwords := asciiWord_of_mem_split h
  cases hsplit : split identifier with
  | nil =>
      rw [camel_write_of_isAscii h, hsplit]
      simp [joinCamel, LettersApart, write, pieces, split, segments]
  | cons first others =>
      rw [hsplit, List.forall_mem_cons] at hwords
      obtain ⟨hfirst, hothers⟩ := hwords
      have htitled := titledWord_of_mem_map_capitalize hothers
      have hform : camel.write identifier = lowercase first ++ (others.map capitalize).flatten := by
        rw [camel_write_of_isAscii h, hsplit, joinCamel, joinPascal, List.flatMap_def]
      have hascii : ∀ c ∈ camel.write identifier, isAscii c := by
        rw [hform, List.forall_mem_append]
        exact ⟨hfirst.plainWord_lowercase.asciiWord.isAscii, isAscii_of_mem_flatten htitled⟩
      rw [camel_write_of_isAscii hascii, hform,
        joinCamel_split_append_eq_iff hfirst.plainWord_lowercase htitled,
        lettersApart_map_capitalize_iff fun word hword => (hothers word hword).isAscii,
        List.tail_cons]

end Relabel.Convention

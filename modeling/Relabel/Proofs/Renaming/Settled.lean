import Relabel.Proofs.Renaming.Snake
import Relabel.Proofs.Word.Titled

/-!
# When Pascal and camel case settle

On ASCII identifiers a second conversion to Pascal case changes nothing exactly if no two words of
one letter stand side by side, and a `_` in front of digits makes no difference to that.  In camel
case the first word does not count, and the identifier settles as well if its camel form has no
word boundary any more.
-/

namespace Relabel.Convention

open Relabel.Unicode Relabel.Word

/-! ## Digits at the start of a Pascal form -/

section

variable {identifier : List Char}

theorem pascal_write_underscore (h : ∀ c ∈ identifier, isAscii c) :
    pascal.write ('_' :: identifier) = pascal.write identifier := by
  have hunderscore : ∀ c ∈ '_' :: identifier, isAscii c :=
    List.forall_mem_cons.mpr ⟨by decide, h⟩
  rw [pascal_write_of_isAscii hunderscore, pascal_write_of_isAscii h,
    split_cons_of_not_isAlphanumeric (by decide)]

theorem head?_pascal_write {first : Char} {rest : List Char} (hfirst : isAlphanumeric first)
    (h : ∀ c ∈ first :: rest, isAscii c) :
    (pascal.write (first :: rest)).head? = some first.toUpper := by
  obtain ⟨tail, others, hsplit, -⟩ := split_cons_of_isAlphanumeric hfirst rest
  have hword := asciiWord_of_mem_split h (first :: tail) (by simp [hsplit])
  rw [pascal_write_of_isAscii h, hsplit, joinPascal, List.flatMap_cons,
    capitalize_of_isAscii hword.isAscii]
  rfl

theorem head?_pascal_write_write (h : ∀ c ∈ identifier, isAscii c) :
    (pascal.write (pascal.write identifier)).head? = (pascal.write identifier).head? := by
  have hascii := isAscii_pascal_write h
  cases hform : pascal.write identifier with
  | nil => rfl
  | cons first rest =>
      rw [hform] at hascii
      rw [pascal_write_eq_flatten h] at hform
      have hclass := isDigit_or_isUpper_of_flatten
        (titledWord_of_mem_map_capitalize (asciiWord_of_mem_split h)) hform
      have hupper : first.toUpper = first := hclass.elim toUpper_of_isDigit toUpper_of_isUpper
      have halpha : isAlphanumeric first :=
        hclass.elim isAlphanumeric_of_isDigit isAlphanumeric_of_isUpper
      rw [head?_pascal_write halpha hascii, hupper, List.head?_cons]

theorem pascal_escaped_eq_iff (h : ∀ c ∈ identifier, isAscii c) :
    escapedChars (pascal.write (escapedChars (pascal.write identifier))) =
        escapedChars (pascal.write identifier) ↔
      pascal.write (pascal.write identifier) = pascal.write identifier := by
  have hhead := head?_pascal_write_write h
  cases hdigit : (pascal.write identifier).head?.any Char.isDigit with
  | true =>
      have hescaped : escapedChars (pascal.write identifier) = '_' :: pascal.write identifier := by
        simp [escapedChars, hdigit]
      rw [hescaped, pascal_write_underscore (isAscii_pascal_write h)]
      simp [escapedChars, hhead, hdigit]
  | false =>
      have hescaped : escapedChars (pascal.write identifier) = pascal.write identifier := by
        simp [escapedChars, hdigit]
      rw [hescaped]
      simp [escapedChars, hhead, hdigit]

end

/-! ## Settled names -/

variable {identifier : String}

theorem lettersApart_iff {found : List (List Char)} :
    LettersApart found ↔ (found.map String.ofList).IsChain fun first second =>
      ¬ (SingleLetter first.toList ∧ SingleLetter second.toList) := by
  simp [LettersApart, List.isChain_map]

/--
On an ASCII identifier a second conversion to Pascal case changes nothing exactly if no two
consecutive words are single letters.  The same holds for members of enumerations, whether or not
digits are escaped.
-/
theorem pascal_settles_iff (boundary : Boundary) (h : ∀ c ∈ identifier.toList, isAscii c) :
    (pascal.apply boundary (pascal.apply boundary identifier) = pascal.apply boundary identifier ↔
      (words identifier).IsChain fun first second =>
        ¬ (SingleLetter first.toList ∧ SingleLetter second.toList)) ∧
    ∀ escapeDigits, let rules := pascal.rules { boundary, escapeDigits }
      (rules.member (rules.member identifier) = rules.member identifier ↔
        (words identifier).IsChain fun first second =>
          ¬ (SingleLetter first.toList ∧ SingleLetter second.toList)) := by
  have hplain : pascal.apply boundary (pascal.apply boundary identifier) =
      pascal.apply boundary identifier ↔ LettersApart (split identifier.toList) := by
    rw [← pascal_write_write_eq_iff h, ← String.toList_inj]
    simp only [toList_apply, pascal_applyChars]
  rw [words, ← lettersApart_iff]
  refine ⟨hplain, fun escapeDigits => ?_⟩
  cases escapeDigits with
  | false => simpa [rules] using hplain
  | true =>
      simp only [rules, if_true, ← String.toList_inj, toList_escapeLeadingDigit, toList_apply,
        pascal_applyChars]
      rw [pascal_escaped_eq_iff h, pascal_write_write_eq_iff h]

theorem pascal_unsettled_of_letters_settled_across_digit :
    (∀ c ∈ "x_y_route".toList, isAscii c) ∧ words "x_y_route" = ["x", "y", "route"] ∧
    pascal.apply .standard (pascal.apply .standard "x_y_route") ≠
      pascal.apply .standard "x_y_route" ∧
    (∀ c ∈ "x_2_y_route".toList, isAscii c) ∧ words "x_2_y_route" = ["x", "2", "y", "route"] ∧
    let rules := pascal.rules {}
    rules.member (rules.member "x_2_y_route") = rules.member "x_2_y_route" := by
  have hmeet : words "x_y_route" = ["x", "y", "route"] := by decide
  have hapart : words "x_2_y_route" = ["x", "2", "y", "route"] := by decide
  have hmeetascii : ∀ c ∈ "x_y_route".toList, isAscii c := by simp [isAscii]
  have hapartascii : ∀ c ∈ "x_2_y_route".toList, isAscii c := by simp [isAscii]
  refine ⟨hmeetascii, hmeet, ?_, hapartascii, hapart, ?_⟩
  · rw [Ne, (pascal_settles_iff .standard hmeetascii).1, hmeet, List.isChain_cons_cons]
    rintro ⟨hletters, -⟩
    exact hletters ⟨⟨'x', by simp, by decide⟩, ⟨'y', by simp, by decide⟩⟩
  · refine ((pascal_settles_iff .standard hapartascii).2 true).mpr ?_
    rw [hapart]
    simp [SingleLetter]

/--
On an ASCII identifier a second conversion to camel case changes nothing exactly if nothing divides
the camel form, or no two consecutive words after the first one are single letters.
-/
theorem camel_settles_iff (boundary : Boundary) (h : ∀ c ∈ identifier.toList, isAscii c) :
    let once := camel.apply boundary identifier
    camel.apply boundary once = once ↔
      boundary.divides once = false ∨ (words identifier).tail.IsChain fun first second =>
        ¬ (SingleLetter first.toList ∧ SingleLetter second.toList) := by
  intro once
  rw [words, ← List.map_tail, ← lettersApart_iff, ← camel_write_write_eq_iff h,
    ← String.toList_inj, toList_apply, Boundary.divides, toList_apply]
  cases hdivides : boundary.dividesChars identifier.toList with
  | false =>
      rw [camel.applyChars_of_not_divides (by decide) hdivides,
        camel.applyChars_of_not_divides (by decide) hdivides]
      simp [hdivides]
  | true =>
      rw [camel.applyChars_of_divides hdivides]
      cases honce : boundary.dividesChars (camel.write identifier.toList) with
      | false => simp [camel.applyChars_of_not_divides (by decide) honce]
      | true => simp [camel.applyChars_of_divides honce]

theorem camel_unsettled_of_letters_settled_behind_digit :
    (∀ c ∈ "x_y_z".toList, isAscii c) ∧ words "x_y_z" = ["x", "y", "z"] ∧
    camel.apply .standard (camel.apply .standard "x_y_z") ≠ camel.apply .standard "x_y_z" ∧
    (∀ c ∈ "1_y_z".toList, isAscii c) ∧
    Boundary.standard.divides (camel.apply .standard "1_y_z") = false ∧
    camel.apply .standard (camel.apply .standard "1_y_z") = camel.apply .standard "1_y_z" := by
  have hwords : words "x_y_z" = ["x", "y", "z"] := by decide
  have hdivides : Boundary.standard.divides (camel.apply .standard "x_y_z") := by decide
  have hone : Boundary.standard.divides (camel.apply .standard "1_y_z") = false := by decide
  have hascii : ∀ c ∈ "x_y_z".toList, isAscii c := by simp [isAscii]
  have honeascii : ∀ c ∈ "1_y_z".toList, isAscii c := by simp [isAscii]
  refine ⟨hascii, hwords, ?_, honeascii, hone,
    (camel_settles_iff .standard honeascii).mpr (.inl hone)⟩
  intro hsettled
  rcases (camel_settles_iff .standard hascii).mp hsettled with hnone | hletters
  · simp [hdivides] at hnone
  · rw [hwords, List.tail_cons, List.isChain_cons_cons] at hletters
    exact hletters.1 ⟨⟨'y', by simp, by decide⟩, ⟨'z', by simp, by decide⟩⟩

/-! ## A leading capital -/

section

variable {identifier : List Char}

theorem isUppercase_head?_pascal_write (h : ∀ c ∈ identifier, isAscii c)
    (hcapital : identifier.head?.any isUppercase) :
    (pascal.write identifier).head?.any isUppercase := by
  cases identifier with
  | nil => simp at hcapital
  | cons first rest =>
      have hupper : first.isUpper := by
        simpa [isUppercase_of_isAscii (h first List.mem_cons_self)] using hcapital
      rw [head?_pascal_write (isAlphanumeric_of_isUpper hupper) h, toUpper_of_isUpper hupper]
      exact hcapital

theorem not_isUppercase_head?_camel_write (h : ∀ c ∈ identifier, isAscii c) :
    (camel.write identifier).head?.any isUppercase = false := by
  rw [camel_write_of_isAscii h]
  cases hsplit : split identifier with
  | nil => rfl
  | cons first others =>
      have hplain := (asciiWord_of_mem_split h first (by simp [hsplit])).plainWord_lowercase
      obtain ⟨c, rest, hform⟩ := List.exists_cons_of_ne_nil hplain.asciiWord.ne_nil
      have hc : isUppercase c = false := hplain.not_isUppercase c (by simp [hform])
      rw [joinCamel, hform, List.cons_append, List.head?_cons, Option.any_some, hc]

end

theorem toList_camelKeepingCapital_of_capital
    (hcapital : identifier.toList.head?.any isUppercase) :
    (camelKeepingCapital identifier).toList = pascal.write identifier.toList := by
  simp [camelKeepingCapital, hcapital]

theorem toList_camelKeepingCapital_of_not_capital
    (hcapital : identifier.toList.head?.any isUppercase = false) :
    (camelKeepingCapital identifier).toList = camel.write identifier.toList := by
  simp [camelKeepingCapital, hcapital]

/--
Camel case that keeps a leading capital writes one exactly where an ASCII identifier starts with one.
A second conversion changes nothing exactly if no two consecutive words are single letters, where
the first word counts only behind a leading capital.
-/
theorem camelKeepingCapital_settles_iff (h : ∀ c ∈ identifier.toList, isAscii c) :
    let once := camelKeepingCapital identifier
    let counted :=
      if identifier.toList.head?.any isUppercase then words identifier else (words identifier).tail
    once.toList.head?.any isUppercase = identifier.toList.head?.any isUppercase ∧
    (camelKeepingCapital once = once ↔ counted.IsChain fun first second =>
      ¬ (SingleLetter first.toList ∧ SingleLetter second.toList)) := by
  intro once counted
  cases hcapital : identifier.toList.head?.any isUppercase with
  | true =>
      have honce : once.toList = pascal.write identifier.toList :=
        toList_camelKeepingCapital_of_capital hcapital
      have hhead : once.toList.head?.any isUppercase := by
        rw [honce]
        exact isUppercase_head?_pascal_write h hcapital
      refine ⟨hhead, ?_⟩
      rw [← String.toList_inj, toList_camelKeepingCapital_of_capital hhead, honce,
        pascal_write_write_eq_iff h, lettersApart_iff]
      simp [counted, hcapital, words]
  | false =>
      have honce : once.toList = camel.write identifier.toList :=
        toList_camelKeepingCapital_of_not_capital hcapital
      have hhead : once.toList.head?.any isUppercase = false := by
        rw [honce]
        exact not_isUppercase_head?_camel_write h
      refine ⟨hhead, ?_⟩
      rw [← String.toList_inj, toList_camelKeepingCapital_of_not_capital hhead, honce,
        camel_write_write_eq_iff h, lettersApart_iff]
      simp [counted, hcapital, words, List.map_tail]

theorem camelKeepingCapital_unsettled_behind_capital :
    (∀ c ∈ "X_y_route".toList, isAscii c) ∧ words "X_y_route" = ["X", "y", "route"] ∧
    camelKeepingCapital "X_y_route" = "XYRoute" ∧ camelKeepingCapital "XYRoute" ≠ "XYRoute" ∧
    (∀ c ∈ "x_y_route".toList, isAscii c) ∧ words "x_y_route" = ["x", "y", "route"] ∧
    camelKeepingCapital "x_y_route" = "xYRoute" ∧ camelKeepingCapital "xYRoute" = "xYRoute" := by
  have hmeet : words "X_y_route" = ["X", "y", "route"] := by decide
  have hapart : words "x_y_route" = ["x", "y", "route"] := by decide
  have hmeetascii : ∀ c ∈ "X_y_route".toList, isAscii c := by simp [isAscii]
  have hapartascii : ∀ c ∈ "x_y_route".toList, isAscii c := by simp [isAscii]
  have hmeetonce : camelKeepingCapital "X_y_route" = "XYRoute" := by decide
  have hapartonce : camelKeepingCapital "x_y_route" = "xYRoute" := by decide
  obtain ⟨-, hmeetsettles⟩ := camelKeepingCapital_settles_iff hmeetascii
  obtain ⟨-, hapartsettles⟩ := camelKeepingCapital_settles_iff hapartascii
  rw [hmeetonce, hmeet, if_pos (by decide), List.isChain_cons_cons] at hmeetsettles
  rw [hapartonce, hapart, if_neg (by decide)] at hapartsettles
  refine ⟨hmeetascii, hmeet, hmeetonce, fun heq => ?_, hapartascii, hapart, hapartonce,
    hapartsettles.mpr ?_⟩
  · exact (hmeetsettles.mp heq).1 ⟨⟨'X', by simp, by decide⟩, ⟨'y', by simp, by decide⟩⟩
  · simp [SingleLetter]

end Relabel.Convention

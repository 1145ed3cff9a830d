import Relabel.Proofs.Renaming.Options
import Relabel.Proofs.Renaming.Snake
import Relabel.Proofs.Word.Letters
import Relabel.Proofs.Word.Titled

/-!
# Members with identifiers for names

A member whose name is an ASCII text with some letter or digit is renamed to an identifier, if the
convention applies and digits are escaped.  The identifier begins with a `_` only in front of a
digit, and other than in snake case it has no further one.
-/

namespace Relabel

open Relabel.Unicode

/-- Whether the whole text matches `[A-Za-z_][A-Za-z0-9_]*`. -/
def isIdentifier : List Char → Bool
  | [] => false
  | first :: rest =>
      (first.isAlpha || first == '_') && rest.all fun c => c.isAlphanum || c == '_'

theorem isAlphanumeric_eq_isAlphanum {c : Char} (hc : isAscii c) :
    isAlphanumeric c = c.isAlphanum := by
  simp [isAlphanumeric, hc]

/-! ## Names with digits escaped -/

section

variable {first : Char} {rest : List Char} (hfirst : first.isAlphanum)
include hfirst

theorem isIdentifier_escapedChars (hrest : ∀ d ∈ rest, d.isAlphanum ∨ d = '_') :
    isIdentifier (escapedChars (first :: rest)) := by
  have hall : rest.all (fun c => c.isAlphanum || c == '_') :=
    List.all_eq_true.mpr fun d hd => by simpa using hrest d hd
  by_cases hdigit : first.isDigit
  · have hescaped : escapedChars (first :: rest) = '_' :: first :: rest := by
      simp [escapedChars, hdigit]
    simp [hescaped, isIdentifier, hfirst, hall]
  · have hescaped : escapedChars (first :: rest) = first :: rest := by
      simp [escapedChars, hdigit]
    have halpha : first.isAlpha := (Bool.or_eq_true_iff.mp hfirst).resolve_right hdigit
    simp [hescaped, isIdentifier, halpha, hall]

theorem head?_escapedChars_eq_iff :
    (escapedChars (first :: rest)).head? = some '_' ↔ first.isDigit := by
  have hne : first ≠ '_' := fun heq => absurd hfirst (by rw [heq]; decide)
  by_cases hdigit : first.isDigit <;> simp [escapedChars, hdigit, hne]

end

theorem mem_of_mem_tail_escapedChars {name : List Char} {d : Char}
    (h : d ∈ (escapedChars name).tail) : d ∈ name := by
  unfold escapedChars at h
  split at h
  · exact h
  · exact List.mem_of_mem_tail h

/-! ## Case forms in ASCII -/

theorem Unicode.CaseForm.of_isAlphanum {c : Char} {form : List Char} (h : CaseForm c form)
    (hc : isAscii c) (halphanum : c.isAlphanum) :
    ∃ d, form = [d] ∧ d.isAlphanum ∧ d.isDigit = c.isDigit := by
  have hlower : c.toLower.isAlphanum ∧ c.toLower.isDigit = c.isDigit :=
    forall_ascii (P := fun c => c.isAlphanum → c.toLower.isAlphanum ∧ c.toLower.isDigit = c.isDigit)
      (by decide +kernel) hc halphanum
  have hupper : c.toUpper.isAlphanum ∧ c.toUpper.isDigit = c.isDigit :=
    forall_ascii (P := fun c => c.isAlphanum → c.toUpper.isAlphanum ∧ c.toUpper.isDigit = c.isDigit)
      (by decide +kernel) hc halphanum
  cases h with
  | small hsmall =>
      cases hsmall with
      | plain => exact ⟨c.toLower, toLowercase_of_isAscii hc, hlower⟩
      | final hsigma => exact absurd (hsigma ▸ hc) (by decide)
  | capital => exact ⟨c.toUpper, toUppercase_of_isAscii hc, hupper⟩

namespace Word

variable {text written : List Char}

theorem Writes.forall₂ (htext : ∀ c ∈ text, isAscii c ∧ c.isAlphanum)
    (h : Writes CaseForm text written) :
    List.Forall₂ (fun c d => d.isAlphanum ∧ d.isDigit = c.isDigit) text written := by
  induction h with
  | nil => exact .nil
  | cons hform _ _ ih =>
      obtain ⟨⟨hascii, halphanum⟩, htext⟩ := List.forall_mem_cons.mp htext
      obtain ⟨d, rfl, hd⟩ := hform.of_isAlphanum hascii halphanum
      exact .cons hd (ih htext)

theorem Writes.isAlphanum_of_mem (htext : ∀ c ∈ text, isAscii c ∧ c.isAlphanum)
    (h : Writes CaseForm text written) : ∀ d ∈ written, d.isAlphanum := by
  have hforall := h.forall₂ htext
  clear h htext
  induction hforall with
  | nil => exact List.forall_mem_nil _
  | cons hd _ ih => exact List.forall_mem_cons.mpr ⟨hd.1, ih⟩

end Word

namespace Convention

open Relabel.Word

/-! ## What a convention writes -/

section

variable {identifier : List Char}

theorem isAlphanum_of_mem_split (h : ∀ c ∈ identifier, isAscii c) :
    ∀ c ∈ (split identifier).flatten, isAscii c ∧ c.isAlphanum := by
  intro c hc
  rw [(cut_split identifier).whole] at hc
  obtain ⟨hmem, halphanumeric⟩ := List.mem_filter.mp hc
  exact ⟨h c hmem, isAlphanumeric_eq_isAlphanum (h c hmem) ▸ halphanumeric⟩

theorem isAlphanum_of_mem_write (convention : Convention) (h : ∀ c ∈ identifier, isAscii c) :
    ∀ d ∈ convention.write identifier, d.isAlphanum ∨ convention = snake ∧ d = '_' := by
  have hchars := isAlphanum_of_mem_split h
  intro d hd
  cases convention with
  | camel =>
      rw [camel_write_of_isAscii h] at hd
      exact .inl ((writes_joinCamel _).isAlphanum_of_mem hchars d hd)
  | pascal =>
      rw [pascal_write_of_isAscii h] at hd
      exact .inl ((writes_joinPascal _).isAlphanum_of_mem hchars d hd)
  | snake =>
      rw [snake_write_of_isAscii h] at hd
      rcases mem_joined hd with hseparator | ⟨form, hform, hmem⟩
      · exact .inr ⟨rfl, hseparator⟩
      · obtain ⟨word, hword, rfl⟩ := List.mem_map.mp hform
        have hall : ∀ c ∈ word, isAscii c ∧ c.isAlphanum := fun c hc =>
          hchars c (List.mem_flatten_of_mem hword hc)
        exact .inl ((writes_lowercase_case word).isAlphanum_of_mem hall d hmem)

theorem write_eq_append (convention : Convention) {first : List Char} {others : List (List Char)}
    (h : ∀ c ∈ identifier, isAscii c) (hsplit : split identifier = first :: others) :
    ∃ form rest, Writes CaseForm first form ∧ convention.write identifier = form ++ rest := by
  cases convention with
  | camel =>
      rw [camel_write_of_isAscii h, hsplit]
      exact ⟨_, _, writes_lowercase_case first, rfl⟩
  | pascal =>
      rw [pascal_write_of_isAscii h, hsplit]
      exact ⟨_, _, writes_capitalize first, rfl⟩
  | snake =>
      rw [snake_write_of_isAscii h, hsplit, List.map_cons]
      cases others with
      | nil => exact ⟨_, [], writes_lowercase_case first, by simp⟩
      | cons next others =>
          rw [List.map_cons, List.intercalate_cons_cons, List.append_assoc]
          exact ⟨_, _, writes_lowercase_case first, rfl⟩

theorem write_eq_cons (convention : Convention) (h : ∀ c ∈ identifier, isAscii c) {letter : Char}
    (hfirst : identifier.find? Char.isAlphanum = some letter) :
    ∃ first rest, convention.write identifier = first :: rest ∧ first.isAlphanum ∧
      first.isDigit = letter.isDigit := by
  have hwhole : (split identifier).flatten.head? = some letter := by
    rw [(cut_split identifier).whole, ← hfirst, ← List.head?_filter]
    exact congrArg List.head?
      (List.filter_congr fun c hc => isAlphanumeric_eq_isAlphanum (h c hc))
  cases hsplit : split identifier with
  | nil => simp [hsplit] at hwhole
  | cons word others =>
      have hne : word ≠ [] := (cut_split identifier).nonempty word (by simp [hsplit])
      have hchars : ∀ c ∈ word, isAscii c ∧ c.isAlphanum := fun c hc =>
        isAlphanum_of_mem_split h c (by simp [hsplit, hc])
      obtain ⟨form, rest, hform, hwrite⟩ := write_eq_append convention h hsplit
      obtain ⟨c, tail, rfl⟩ := List.exists_cons_of_ne_nil hne
      obtain rfl : c = letter := by simpa [hsplit] using hwhole
      cases hform.forall₂ hchars with
      | cons hd _ => exact ⟨_, _, hwrite, hd.1, hd.2⟩

end

/-! ## Members -/

variable {convention : Convention} {boundary : Boundary} {identifier : String}

/--
Of an ASCII text with a letter or digit in it a convention that applies makes an identifier.  It
starts with `_` exactly if the first letter or digit is a digit, and has no other `_` except in
snake case.  If the convention does not apply, at most a `_` is put in front of the text.
-/
theorem member_isIdentifier (convention : Convention) (boundary : Boundary)
    (h : ∀ c ∈ identifier.toList, isAscii c) (hsome : ∃ c ∈ identifier.toList, c.isAlphanum) :
    let rules := convention.rules { boundary, escapeDigits := true }
    (convention = pascal ∨ boundary.divides identifier →
      isIdentifier (rules.member identifier).toList ∧
      ((rules.member identifier).toList.head? = some '_' ↔
        ∃ c, identifier.toList.find? Char.isAlphanum = some c ∧ c.isDigit) ∧
      (convention ≠ snake → '_' ∉ (rules.member identifier).toList.tail)) ∧
    (convention ≠ pascal → boundary.divides identifier = false →
      rules.member identifier =
        if identifier.toList.head?.any Char.isDigit then "_" ++ identifier else identifier) := by
  intro rules
  have hname : (rules.member identifier).toList =
      escapedChars (convention.applyChars boundary identifier.toList) := by
    rw [← toList_apply, ← toList_escapeLeadingDigit]
    rfl
  constructor
  · intro happlies
    have hgate : convention.appliesTo boundary identifier.toList := by
      simpa [appliesTo, Boundary.divides] using happlies
    obtain ⟨letter, hletter⟩ := Option.isSome_iff_exists.mp (List.find?_isSome.mpr hsome)
    obtain ⟨first, rest, hwrite, hfirst, hdigit⟩ := write_eq_cons convention h hletter
    have hchars := isAlphanum_of_mem_write convention h
    rw [applyChars, if_pos hgate] at hname
    refine ⟨?_, ?_, fun hconvention hmem => ?_⟩
    · rw [hname, hwrite]
      rw [hwrite] at hchars
      refine isIdentifier_escapedChars hfirst fun d hd => ?_
      exact (hchars d (List.mem_cons_of_mem first hd)).imp_right And.right
    · rw [hname, hwrite, head?_escapedChars_eq_iff hfirst, hdigit, hletter]
      simp
    · rw [hname] at hmem
      rcases hchars '_' (mem_of_mem_tail_escapedChars hmem) with hletter | ⟨hsnake, -⟩
      · exact absurd hletter (by decide)
      · exact hconvention hsnake
  · intro hconvention hdivides
    have hkept : convention.apply boundary identifier = identifier := by
      rw [← String.toList_inj, toList_apply,
        convention.applyChars_of_not_divides hconvention hdivides]
    rw [← escapeLeadingDigit_eq, ← hkept]
    simp [rules, Convention.rules, hkept]

theorem digit_behind_separator_escaped :
    (∀ c ∈ "-2nd lap".toList, isAscii c) ∧ (∃ c ∈ "-2nd lap".toList, c.isAlphanum) ∧
    isIdentifier ((snake.rules {}).member "-2nd lap").toList ∧
    ((snake.rules {}).member "-2nd lap").toList.head? = some '_' ∧
    (∀ c ∈ "2nd".toList, isAscii c) ∧ (∃ c ∈ "2nd".toList, c.isAlphanum) ∧
    (snake.rules {}).member "2nd" = "_2nd" ∧
    '_' ∉ ((camel.rules {}).member "-2nd lap").toList.tail := by
  have hlap : ∀ c ∈ "-2nd lap".toList, isAscii c := by simp [isAscii]
  have hletter : ∃ c ∈ "-2nd lap".toList, c.isAlphanum := ⟨'n', by decide, by decide⟩
  have hshort : ∀ c ∈ "2nd".toList, isAscii c := by simp [isAscii]
  have hshortletter : ∃ c ∈ "2nd".toList, c.isAlphanum := ⟨'n', by decide, by decide⟩
  have hdivides : Boundary.standard.divides "-2nd lap" := by decide
  obtain ⟨hidentifier, hhead, -⟩ :=
    (member_isIdentifier snake .standard hlap hletter).1 (.inr hdivides)
  have hcamel := (member_isIdentifier camel .standard hlap hletter).1 (.inr hdivides)
  have hkept := (member_isIdentifier snake .standard hshort hshortletter).2 (by decide) (by decide)
  exact ⟨hlap, hletter, hidentifier, hhead.mpr ⟨'2', by decide, by decide⟩, hshort, hshortletter,
    hkept.trans (by decide), hcamel.2.2 (by decide)⟩

end Convention

end Relabel

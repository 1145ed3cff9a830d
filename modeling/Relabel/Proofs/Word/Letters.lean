import Relabel.Proofs.Unicode.CaseForm
import Relabel.Proofs.Word.Boundary
import Relabel.Proofs.Word.Spaced

/-!
# The letters that a convention writes

Whatever the script, a convention writes the alphanumeric characters of an identifier once and in
order, each in one of its case forms, and besides them only the `_` of snake case and the spaces
that the words joined.
-/

namespace Relabel.Word

open Relabel.Unicode

/-- `written` has the characters of the text once and in order, each in one of its forms. -/
inductive Writes (Form : Char → List Char → Prop) : List Char → List Char → Prop where
  | nil : Writes Form [] []
  | cons {c : Char} {form text written : List Char} (form_of : Form c form)
      (nonempty : form ≠ []) (rest : Writes Form text written) :
      Writes Form (c :: text) (form ++ written)

variable {Form : Char → List Char → Prop} {text written later following : List Char}
variable {words : List (List Char)} {keep : Char → Bool}

namespace Writes

theorem append (hfirst : Writes Form text written) (hlater : Writes Form later following) :
    Writes Form (text ++ later) (written ++ following) := by
  induction hfirst with
  | nil => exact hlater
  | cons hform hne _ ih =>
      rw [List.cons_append, List.append_assoc]
      exact .cons hform hne ih

theorem flatMap {write : List Char → List Char} (h : ∀ word, Writes Form word (write word))
    (words : List (List Char)) : Writes Form words.flatten (words.flatMap write) := by
  induction words with
  | nil => exact .nil
  | cons word words ih => exact (h word).append ih

theorem mono {Other : Char → List Char → Prop} (himp : ∀ c form, Form c form → Other c form)
    (h : Writes Form text written) : Writes Other text written := by
  induction h with
  | nil => exact .nil
  | cons hform hne _ ih => exact .cons (himp _ _ hform) hne ih

theorem filter (hcase : ∀ c form, Form c form → CaseForm c form)
    (htext : ∀ c ∈ text, c = ' ' ∨ isAlphanumeric c)
    (hkeep : ∀ d, isSeparator d = false → keep d) (hspace : keep ' ' = false)
    (h : Writes Form text written) :
    Writes Form (text.filter (· ≠ ' ')) (written.filter keep) := by
  induction h with
  | nil => exact .nil
  | @cons c form text written hform hne _ ih =>
      obtain ⟨hc, htext⟩ := List.forall_mem_cons.mp htext
      have hrest := ih htext
      rw [List.filter_append]
      rcases hc with rfl | hc
      · obtain rfl := (hcase _ _ hform).of_space
        simpa [hspace] using hrest
      · have hne_space : c ≠ ' ' := fun heq => absurd hc (by rw [heq]; decide)
        have hall := (hcase _ _ hform).isSeparator_of_mem hc
        rw [List.filter_cons_of_pos (by simpa using hne_space),
          List.filter_eq_self.mpr fun d hd => hkeep d (hall d hd)]
        exact .cons hform hne hrest

theorem filter_isBlank (htext : ∀ c ∈ text, c = ' ' ∨ isAlphanumeric c)
    (h : Writes CaseForm text written) : written.filter isBlank = text.filter isBlank := by
  induction h with
  | nil => rfl
  | @cons c form text written hform _ _ ih =>
      obtain ⟨hc, htext⟩ := List.forall_mem_cons.mp htext
      rw [List.filter_append, ih htext]
      rcases hc with rfl | hc
      · rw [hform.of_space]
        rfl
      · have hblank := isBlank_of_not_isSeparator (isSeparator_of_isAlphanumeric hc)
        have hnone : form.filter isBlank = [] := List.filter_eq_nil_iff.mpr fun d hd => by
          simp [isBlank_of_not_isSeparator (hform.isSeparator_of_mem hc d hd)]
        rw [hnone, List.filter_cons_of_neg (by simp [hblank]), List.nil_append]

end Writes

/-! ## What is written for the pieces -/

theorem writes_lowercase (piece : List Char) : Writes SmallForm piece (lowercase piece) := by
  have hone (c : Char) : Writes SmallForm [c] (toLowercase c) := by
    simpa using Writes.cons (SmallForm.plain (c := c)) (toLowercase_ne_nil c) .nil
  induction piece with
  | nil => exact .nil
  | cons c rest ih =>
      cases rest with
      | cons d rest => exact (hone c).append ih
      | nil =>
          rw [lowercase]
          split
          · next hsigma => exact Writes.cons (SmallForm.final hsigma) (List.cons_ne_nil _ _) .nil
          · exact hone c

theorem writes_lowercase_case (piece : List Char) : Writes CaseForm piece (lowercase piece) :=
  (writes_lowercase piece).mono fun _ _ => .small

theorem writes_capitalize (piece : List Char) : Writes CaseForm piece (capitalize piece) := by
  cases piece with
  | nil => exact .nil
  | cons c rest => exact .cons .capital (toUppercase_ne_nil c) (writes_lowercase_case rest)

theorem writes_joinPascal (pieces : List (List Char)) :
    Writes CaseForm pieces.flatten (joinPascal pieces) :=
  .flatMap writes_capitalize pieces

theorem writes_joinCamel (pieces : List (List Char)) :
    Writes CaseForm pieces.flatten (joinCamel pieces) := by
  cases pieces with
  | nil => exact .nil
  | cons piece pieces => exact (writes_lowercase_case piece).append (writes_joinPascal pieces)

theorem filter_intercalate {sep : List Char} (hsep : sep.filter keep = [])
    (parts : List (List Char)) :
    (sep.intercalate parts).filter keep = parts.flatten.filter keep := by
  induction parts with
  | nil => simp
  | cons part parts ih =>
      cases parts with
      | nil => simp
      | cons next parts =>
          rw [List.intercalate_cons_cons, List.filter_append, List.filter_append, hsep, ih,
            List.append_nil, ← List.filter_append, ← List.flatten_cons]

theorem filter_joinSnake (hkeep : keep '_' = false) (pieces : List (List Char)) :
    (joinSnake pieces).filter keep = (pieces.flatMap lowercase).filter keep := by
  rw [joinSnake, filter_intercalate (by simp [hkeep]), List.flatMap_def]

/-! ## Spaces that are kept -/

variable (hwords : ∀ word ∈ words, ∀ c ∈ word, isAlphanumeric c)
include hwords

theorem mem_joinSpaced : ∀ c ∈ joinSpaced words, c = ' ' ∨ isAlphanumeric c := by
  intro c hc
  cases words with
  | nil => exact absurd hc List.not_mem_nil
  | cons first others =>
      rcases List.mem_append.mp hc with hc | hc
      · exact .inr (hwords first List.mem_cons_self c hc)
      · obtain ⟨word, hmem, hc⟩ := List.mem_flatMap.mp hc
        have hword := hwords word (List.mem_cons_of_mem first hmem) c
        split at hc
        · exact (List.mem_cons.mp hc).imp_right hword
        · exact .inr (hword hc)

theorem filter_joinSpaced : (joinSpaced words).filter (· ≠ ' ') = words.flatten := by
  have hkeep (word : List Char) (hmem : word ∈ words) : word.filter (· ≠ ' ') = word :=
    List.filter_eq_self.mpr fun c hc => by
      have hne : c ≠ ' ' := fun heq => absurd (hwords word hmem c hc) (by rw [heq]; decide)
      simpa using hne
  cases words with
  | nil => rfl
  | cons first others =>
      rw [joinSpaced, List.filter_append, hkeep first List.mem_cons_self, List.flatten_cons,
        List.filter_flatMap, ← List.flatMap_id]
      congr 1
      refine List.flatMap_congr fun word hmem => ?_
      have hword := hkeep word (List.mem_cons_of_mem first hmem)
      split
      · rw [List.filter_cons_of_neg (by simp), hword]
        rfl
      · exact hword

theorem filter_isBlank_joinSpaced :
    (joinSpaced words).filter isBlank = List.replicate (words.tail.countP combines) ' ' := by
  have hdrop (word : List Char) (hmem : word ∈ words) : word.filter isBlank = [] := by
    refine List.filter_eq_nil_iff.mpr fun c hc => ?_
    simp [isBlank_of_not_isSeparator (isSeparator_of_isAlphanumeric (hwords word hmem c hc))]
  cases words with
  | nil => rfl
  | cons first others =>
      rw [joinSpaced, List.filter_append, hdrop first List.mem_cons_self, List.nil_append,
        List.tail_cons]
      clear hwords
      replace hdrop (word : List Char) (hmem : word ∈ others) : word.filter isBlank = [] :=
        hdrop word (List.mem_cons_of_mem first hmem)
      induction others with
      | nil => rfl
      | cons word others ih =>
          have hspace : isBlank ' ' := by decide
          have hword := hdrop word List.mem_cons_self
          have hothers := ih fun other hmem => hdrop other (List.mem_cons_of_mem word hmem)
          rw [List.flatMap_cons, List.filter_append, hothers, List.countP_cons]
          split
          · rw [List.filter_cons_of_pos hspace, hword, List.replicate_succ]
            rfl
          · rw [hword, List.nil_append, Nat.add_zero]

end Relabel.Word

namespace Relabel.Convention

open Relabel.Unicode Relabel.Word

theorem mem_flatten_pieces (identifier : List Char) :
    ∀ c ∈ (pieces identifier).flatten, c = ' ' ∨ isAlphanumeric c := by
  rw [(pieces_spec identifier).1]
  exact mem_joinSpaced (cut_split identifier).alphanumeric

theorem filter_flatten_pieces (identifier : List Char) :
    (pieces identifier).flatten.filter (· ≠ ' ') = identifier.filter isAlphanumeric := by
  rw [(pieces_spec identifier).1, filter_joinSpaced (cut_split identifier).alphanumeric,
    (cut_split identifier).whole]

theorem filter_isBlank_flatten_pieces (identifier : List Char) :
    (pieces identifier).flatten.filter isBlank =
      List.replicate ((split identifier).tail.countP combines) ' ' := by
  rw [(pieces_spec identifier).1, filter_isBlank_joinSpaced (cut_split identifier).alphanumeric]

/--
No alphanumeric character is lost, repeated or moved, in any script: the pieces hold them all and
otherwise only spaces, none of them without such a character, and every convention writes each of
them in one of its case forms.
-/
theorem letters_written_once (identifier : String) :
    (∀ piece ∈ pieces identifier.toList, ∃ c ∈ piece, isAlphanumeric c) ∧
    (pieces identifier.toList).flatten.filter (· ≠ ' ') =
      identifier.toList.filter isAlphanumeric ∧
    Writes CaseForm (identifier.toList.filter isAlphanumeric)
      ((pascal.write identifier.toList).filter (· ≠ ' ')) ∧
    Writes CaseForm (identifier.toList.filter isAlphanumeric)
      ((camel.write identifier.toList).filter (· ≠ ' ')) ∧
    Writes SmallForm (identifier.toList.filter isAlphanumeric)
      ((snake.write identifier.toList).filter fun d => d ≠ ' ' ∧ d ≠ '_') := by
  have hchars := mem_flatten_pieces identifier.toList
  have hletter {d : Char} (hd : isSeparator d = false) : d ≠ ' ' ∧ d ≠ '_' := by
    constructor <;> rintro rfl <;> exact absurd hd (by decide)
  rw [← filter_flatten_pieces]
  refine ⟨?_, rfl, ?_, ?_, ?_⟩
  · intro piece hpiece
    exact List.any_eq_true.mp ((pieces_spec identifier.toList).2 piece hpiece)
  · exact (writes_joinPascal _).filter (fun _ _ => id) hchars
      (fun d hd => by simpa using (hletter hd).1) (by decide)
  · exact (writes_joinCamel _).filter (fun _ _ => id) hchars
      (fun d hd => by simpa using (hletter hd).1) (by decide)
  · rw [write, filter_joinSnake (by decide)]
    exact (Writes.flatMap writes_lowercase _).filter (fun _ _ => .small) hchars
      (fun d hd => by simpa using hletter hd) (by decide)

theorem filter_isBlank_write (convention : Convention) (identifier : List Char) :
    (convention.write identifier).filter isBlank = (pieces identifier).flatten.filter isBlank := by
  have hchars := mem_flatten_pieces identifier
  cases convention with
  | camel => exact (writes_joinCamel _).filter_isBlank hchars
  | snake =>
      rw [write, filter_joinSnake (by decide)]
      exact (Writes.flatMap writes_lowercase_case _).filter_isBlank hchars
  | pascal => exact (writes_joinPascal _).filter_isBlank hchars

variable {convention : Convention} {boundary : Boundary} {identifier : String}

/-- A convention that applies writes white space just where a word after the first joins the space
before it: there it writes that one space. -/
theorem filter_isBlank_apply (h : convention.appliesTo boundary identifier.toList) :
    (convention.apply boundary identifier).toList.filter isBlank =
      List.replicate ((split identifier.toList).tail.countP combines) ' ' := by
  rw [toList_apply, applyChars, if_pos h, filter_isBlank_write, filter_isBlank_flatten_pieces]

theorem snake_apply_writes_space_before_mark :
    snake.appliesTo .standard "a_\u0903".toList ∧
    (snake.apply .standard "a_\u0903").toList.filter isBlank = [' '] := by
  have happlies : snake.appliesTo .standard "a_\u0903".toList := by decide
  refine ⟨happlies, ?_⟩
  rw [filter_isBlank_apply happlies]
  decide +kernel

theorem exists_isBlank_mem_apply :
    ¬ ∀ (convention : Convention) (boundary : Boundary) (identifier : String),
      convention.appliesTo boundary identifier.toList →
        ∀ c ∈ (convention.apply boundary identifier).toList, ¬ isBlank c := by
  intro h
  exact h snake .standard "a_\u0903" (by decide) ' ' (by decide +kernel) (by decide)

end Relabel.Convention

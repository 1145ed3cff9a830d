import Relabel.Proofs.Renaming.Snake
import Relabel.Proofs.Word.Letters

/-!
# When a name is erased

A name that has a letter or a digit, in whatever script, is never converted to the empty text: the
segmentation keeps the segment with that character, and each case form of it has some character.  A
name without letters and digits has no pieces, so that nothing of it is left by a convention that
applies.
-/

namespace Relabel.Word

open Relabel.Unicode

variable {Form : Char → List Char → Prop} {text written : List Char} {found : List (List Char)}

theorem Writes.eq_nil_iff (h : Writes Form text written) : written = [] ↔ text = [] := by
  cases h with
  | nil => rfl
  | cons _ hne _ => simp [hne]

theorem joinSnake_eq_nil_iff (hne : ∀ piece ∈ found, piece ≠ []) :
    joinSnake found = [] ↔ found = [] := by
  cases found with
  | nil => simp [joinSnake]
  | cons piece others =>
      have hpiece : lowercase piece ≠ [] :=
        mt (writes_lowercase piece).eq_nil_iff.mp (hne piece List.mem_cons_self)
      cases others <;> simp [joinSnake, hpiece]

theorem pieces_eq_nil_iff (identifier : List Char) :
    pieces identifier = [] ↔ ∀ c ∈ identifier, ¬ isAlphanumeric c := by
  have hletters := Convention.filter_flatten_pieces identifier
  constructor
  · intro hnone
    rw [hnone] at hletters
    exact List.filter_eq_nil_iff.mp hletters.symm
  · intro hnone
    rw [List.filter_eq_nil_iff.mpr hnone] at hletters
    refine List.eq_nil_iff_forall_not_mem.mpr fun piece hpiece => ?_
    obtain ⟨c, hc, hclass⟩ := List.any_eq_true.mp ((pieces_spec identifier).2 piece hpiece)
    have hspace : c ≠ ' ' := fun heq => absurd hclass (by rw [heq]; decide)
    have hmem : c ∈ (pieces identifier).flatten := List.mem_flatten_of_mem hpiece hc
    exact List.filter_eq_nil_iff.mp hletters c hmem (by simpa using hspace)

end Relabel.Word

namespace Relabel

open Relabel.Unicode Relabel.Word

theorem escapeLeadingDigit_eq_empty_iff (name : String) :
    escapeLeadingDigit name = "" ↔ name = "" := by
  rw [← String.toList_eq_nil_iff, toList_escapeLeadingDigit, ← String.toList_eq_nil_iff]
  cases hname : name.toList with
  | nil => simp [escapedChars]
  | cons first rest =>
      rw [escapedChars]
      split <;> simp

namespace Convention

theorem write_eq_nil_iff (convention : Convention) (identifier : List Char) :
    convention.write identifier = [] ↔ ∀ c ∈ identifier, ¬ isAlphanumeric c := by
  have hne : ∀ piece ∈ pieces identifier, piece ≠ [] := by
    rintro piece hpiece rfl
    simpa using (pieces_spec identifier).2 [] hpiece
  have hflatten : (pieces identifier).flatten = [] ↔ pieces identifier = [] := by
    rw [List.flatten_eq_nil_iff, List.eq_nil_iff_forall_not_mem]
    exact forall_congr' fun piece => imp_congr_right fun hpiece => iff_false_intro (hne piece hpiece)
  rw [← pieces_eq_nil_iff]
  cases convention with
  | camel => rw [write, (writes_joinCamel _).eq_nil_iff, hflatten]
  | snake => rw [write, joinSnake_eq_nil_iff hne]
  | pascal => rw [write, (writes_joinPascal _).eq_nil_iff, hflatten]

/--
A name becomes empty exactly if it is empty already, or has no alphanumeric character and the
convention applies to it.  The same holds for members of enumerations, whether or not digits are
escaped.
-/
theorem apply_eq_empty_iff (convention : Convention) (boundary : Boundary) (name : String) :
    let erased := name = "" ∨ (∀ c ∈ name.toList, ¬ isAlphanumeric c) ∧
      (convention = pascal ∨ boundary.divides name)
    (convention.apply boundary name = "" ↔ erased) ∧
    ∀ escapeDigits,
      ((convention.rules { boundary, escapeDigits }).member name = "" ↔ erased) := by
  intro erased
  have hgate : (convention = pascal ∨ boundary.divides name) ↔
      convention.appliesTo boundary name.toList := by
    simp [appliesTo, Boundary.divides]
  have happly : convention.apply boundary name = "" ↔ erased := by
    simp only [erased, hgate, ← String.toList_eq_nil_iff, toList_apply, applyChars]
    split
    · next happlies =>
        rw [write_eq_nil_iff, and_iff_left happlies, or_iff_right_of_imp]
        intro hempty
        simp [hempty]
    · next hkeeps => simp [hkeeps]
  refine ⟨happly, fun escapeDigits => Iff.trans ?_ happly⟩
  cases escapeDigits with
  | false => rfl
  | true => exact escapeLeadingDigit_eq_empty_iff _

example : camel.apply .standard "-" = "" ∧ camel.apply .ignoreHyphen "-" = "-" := by decide

end Convention

end Relabel

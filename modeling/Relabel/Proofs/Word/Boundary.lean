import Relabel.Convention

/-!
# What divides a name

A name has several words if there is a separator in it or a small letter right before a capital
or a digit, wherever that is.  The two settings differ in the hyphen alone.  Camel and snake case
are for the names that are divided.
-/

namespace Relabel

open Relabel.Unicode

/-- White space, a `_`, or a small ASCII letter right before an ASCII capital or digit. -/
def DividedWithoutHyphen (name : List Char) : Prop :=
  (∃ c ∈ name, isBlank c ∨ c = '_') ∨
    ∃ x y, [x, y] <:+: name ∧ x.isLower ∧ (y.isUpper ∨ y.isDigit)

namespace Boundary

private theorem exists_neighbours_cons_iff {P : Char → Char → Prop} {x y : Char}
    {rest : List Char} :
    (∃ a b, [a, b] <:+: x :: y :: rest ∧ P a b) ↔
      P x y ∨ ∃ a b, [a, b] <:+: y :: rest ∧ P a b := by
  constructor
  · rintro ⟨a, b, hab, h⟩
    rcases List.infix_cons_iff.mp hab with hstart | hlater
    · obtain ⟨rfl, rfl⟩ : a = x ∧ b = y := by simpa [List.cons_prefix_cons] using hstart
      exact .inl h
    · exact .inr ⟨a, b, hlater, h⟩
  · rintro (h | ⟨a, b, hab, h⟩)
    · exact ⟨x, y, ⟨[], rest, rfl⟩, h⟩
    · exact ⟨a, b, hab.trans (List.suffix_cons x _).isInfix, h⟩

theorem dividesChars_iff {boundary : Boundary} {name : List Char} :
    boundary.dividesChars name ↔
      (∃ c ∈ name, boundary.separates c) ∨ ∃ x y, [x, y] <:+: name ∧ turns x y := by
  fun_induction dividesChars boundary name with
  | case1 => simp
  | case2 x => simp [List.infix_cons_iff]
  | case3 x y rest ih =>
      have hseparates : (∃ c ∈ x :: y :: rest, boundary.separates c) ↔
          boundary.separates x ∨ ∃ c ∈ y :: rest, boundary.separates c := by
        simp
      rw [Bool.or_eq_true, Bool.or_eq_true, ih, hseparates, exists_neighbours_cons_iff,
        or_or_or_comm]

theorem dividesChars_of_separates {boundary : Boundary} {c : Char} {name : List Char}
    (hc : boundary.separates c) (hmem : c ∈ name) : boundary.dividesChars name :=
  dividesChars_iff.mpr (.inl ⟨c, hmem, hc⟩)

theorem separates_underscore (boundary : Boundary) : boundary.separates '_' := by
  simp [separates]

theorem dividesChars_ignoreHyphen_iff {name : List Char} :
    ignoreHyphen.dividesChars name ↔ DividedWithoutHyphen name := by
  simp [dividesChars_iff, DividedWithoutHyphen, separates, turns]

theorem dividesChars_standard_iff {name : List Char} :
    standard.dividesChars name ↔ '-' ∈ name ∨ DividedWithoutHyphen name := by
  have hseparates : ∀ c, standard.separates c ↔ c = '-' ∨ ignoreHyphen.separates c := by
    simp [separates, or_comm]
  rw [← dividesChars_ignoreHyphen_iff, dividesChars_iff, dividesChars_iff, ← or_assoc]
  simp only [hseparates, and_or_left, exists_or, exists_eq_right]

example : standard.divides "x-rate" ∧ ¬ ignoreHyphen.divides "x-rate" := by decide

end Boundary

namespace Convention

variable {boundary : Boundary} {name : List Char}

theorem toList_apply (convention : Convention) (boundary : Boundary) (name : String) :
    (convention.apply boundary name).toList = convention.applyChars boundary name.toList := by
  simp [apply]

theorem pascal_applyChars : pascal.applyChars boundary name = pascal.write name := by
  simp [applyChars, appliesTo]

theorem applyChars_of_divides (convention : Convention) (h : boundary.dividesChars name) :
    convention.applyChars boundary name = convention.write name := by
  simp [applyChars, appliesTo, h]

theorem applyChars_of_not_divides (convention : Convention) (hconvention : convention ≠ pascal)
    (h : boundary.dividesChars name = false) : convention.applyChars boundary name = name := by
  simp [applyChars, appliesTo, hconvention, h]

end Convention

end Relabel

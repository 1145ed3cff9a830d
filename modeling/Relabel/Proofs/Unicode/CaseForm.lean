import Relabel.Convention
import Relabel.Proofs.Word.Ascii

/-!
# Case forms of alphanumeric characters

A character is written in its lowercase or in its uppercase form, which may be several characters.
The forms of an alphanumeric character have neither white space nor a `_` in them.  For the
characters of ASCII this is checked one by one, for the others table entry by table entry.
-/

namespace Relabel.Unicode

/-- How a character is written in small letters. -/
inductive SmallForm (c : Char) : List Char → Prop where
  | plain : SmallForm c (toLowercase c)
  | final (sigma : c = 'Σ') : SmallForm c ['ς']

inductive CaseForm (c : Char) : List Char → Prop where
  | small {form : List Char} (small : SmallForm c form) : CaseForm c form
  | capital : CaseForm c (toUppercase c)

/-! ## Code points outside of some ranges -/

def Ranges.misses (ranges : Ranges) (first last : Nat) : Bool :=
  ranges.all fun range => last < range.1 || range.2 < first

def separatorRanges : Ranges := (0x5F, 0x5F) :: blankRanges

def isSeparator (c : Char) : Bool := separatorRanges.contains c

theorem isSeparator_iff {c : Char} : isSeparator c ↔ c = '_' ∨ isBlank c := by
  have hunderscore : (0x5F ≤ c.toNat ∧ c.toNat ≤ 0x5F) ↔ c = '_' := by
    rw [← Char.toNat_inj, show '_'.toNat = 0x5F from rfl]
    omega
  simp [isSeparator, separatorRanges, isBlank, Ranges.contains, hunderscore]

theorem isBlank_of_not_isSeparator {c : Char} (h : isSeparator c = false) : isBlank c = false :=
  Bool.eq_false_iff.mpr fun hblank =>
    Bool.eq_false_iff.mp h (isSeparator_iff.mpr (.inr hblank))

variable {ranges : Ranges} {first last code : Nat}

theorem Ranges.misses_of_le (h : ranges.misses first last) (hfirst : first ≤ code)
    (hlast : code ≤ last) : ranges.misses code code := by
  simp only [misses, List.all_eq_true, Bool.or_eq_true, decide_eq_true_eq] at h ⊢
  intro range hrange
  have := h range hrange
  omega

theorem Ranges.contains_eq_false_iff {c : Char} :
    ranges.contains c = false ↔ ranges.misses c.toNat c.toNat := by
  simp only [contains, misses, List.any_eq_false, List.all_eq_true, Bool.and_eq_true,
    Bool.or_eq_true, decide_eq_true_eq]
  refine forall₂_congr fun range _ => ?_
  omega

theorem Ranges.contains_eq_false_of_misses {others : Ranges} {c : Char}
    (h : others.all fun range => ranges.misses range.1 range.2) (hc : others.contains c) :
    ranges.contains c = false := by
  obtain ⟨range, hrange, hin⟩ := List.any_eq_true.mp hc
  simp only [Bool.and_eq_true, decide_eq_true_eq] at hin
  exact contains_eq_false_iff.mpr
    (misses_of_le (List.all_eq_true.mp h range hrange) hin.1 hin.2)

theorem toNat_ofNat_or (code : Nat) :
    (Char.ofNat code).toNat = code ∨ (Char.ofNat code).toNat = 0 := by
  by_cases h : code.isValidChar
  · exact .inl (by rw [Char.ofNat, dif_pos h]; rfl)
  · exact .inr (by rw [Char.ofNat, dif_neg h]; rfl)

/-! ## Images of a case mapping -/

def CaseMapping.misses (mapping : CaseMapping) (ranges : Ranges) : Bool :=
  (mapping.shifts.all fun shift =>
    ranges.misses shift.target (shift.target + (shift.last - shift.first))) &&
  mapping.expansions.all fun entry => entry.2.all fun image => ranges.misses image image

theorem CaseMapping.misses_images {mapping : CaseMapping} (h : mapping.misses ranges)
    (hcode : ranges.misses code code) :
    ∀ image ∈ mapping.images code, ranges.misses image image := by
  obtain ⟨hshifts, hexpansions⟩ := Bool.and_eq_true_iff.mp h
  intro image himage
  unfold images at himage
  split at himage
  · next shift hfind =>
      obtain rfl := List.mem_singleton.mp himage
      have hcovers := List.find?_some hfind
      simp only [Shift.covers, Bool.and_eq_true, decide_eq_true_eq] at hcovers
      have hshift := List.all_eq_true.mp hshifts shift (List.mem_of_find?_eq_some hfind)
      refine Ranges.misses_of_le hshift ?_ ?_ <;> unfold Shift.apply <;> omega
  · cases hlookup : mapping.expansions.lookup code with
    | none =>
        rw [hlookup, Option.getD_none, List.mem_singleton] at himage
        rwa [himage]
    | some expansion =>
        rw [hlookup, Option.getD_some] at himage
        obtain ⟨before, after, hentries, -⟩ := List.lookup_eq_some_iff.mp hlookup
        have hentry := List.all_eq_true.mp hexpansions (code, expansion) (by simp [hentries])
        exact List.all_eq_true.mp hentry image himage

theorem CaseMapping.contains_eq_false_of_mem_images {mapping : CaseMapping}
    (h : mapping.misses ranges) (hzero : ranges.misses 0 0) {c : Char}
    (hc : ranges.contains c = false) :
    ∀ d ∈ (mapping.images c.toNat).map Char.ofNat, ranges.contains d = false := by
  intro d hd
  obtain ⟨image, himage, rfl⟩ := List.mem_map.mp hd
  have hmisses := misses_images h (Ranges.contains_eq_false_iff.mp hc) image himage
  rw [Ranges.contains_eq_false_iff]
  rcases toNat_ofNat_or image with heq | heq <;> rw [heq]
  · exact hmisses
  · exact hzero

theorem CaseMapping.images_ne_nil {mapping : CaseMapping}
    (h : mapping.expansions.all fun entry => entry.2 ≠ []) (code : Nat) :
    mapping.images code ≠ [] := by
  unfold images
  split
  · exact List.cons_ne_nil _ _
  · cases hlookup : mapping.expansions.lookup code with
    | none => exact List.cons_ne_nil _ _
    | some expansion =>
        obtain ⟨before, after, hentries, -⟩ := List.lookup_eq_some_iff.mp hlookup
        simpa using List.all_eq_true.mp h (code, expansion) (by simp [hentries])

/-! ## No form is empty -/

theorem toLowercase_ne_nil (c : Char) : toLowercase c ≠ [] := by
  unfold toLowercase
  split
  · exact List.cons_ne_nil _ _
  · simpa using CaseMapping.images_ne_nil (by decide +kernel) c.toNat

theorem toUppercase_ne_nil (c : Char) : toUppercase c ≠ [] := by
  unfold toUppercase
  split
  · exact List.cons_ne_nil _ _
  · simpa using CaseMapping.images_ne_nil (by decide +kernel) c.toNat

/-! ## Separators are in no form -/

theorem isSeparator_of_isAlphanumeric {c : Char} (h : isAlphanumeric c) :
    isSeparator c = false := by
  by_cases hc : isAscii c
  · exact forall_ascii (P := fun c => isAlphanumeric c → isSeparator c = false)
      (by decide +kernel) hc h
  · rw [isAlphanumeric, if_neg hc] at h
    exact Ranges.contains_eq_false_of_misses (by decide +kernel) h

theorem isSeparator_of_mem_toLowercase {c : Char} (h : isAlphanumeric c) :
    ∀ d ∈ toLowercase c, isSeparator d = false := by
  unfold toLowercase
  split
  · next hc =>
      exact List.forall_mem_singleton.mpr
        (forall_ascii (P := fun c => isAlphanumeric c → isSeparator c.toLower = false)
          (by decide +kernel) hc h)
  · exact CaseMapping.contains_eq_false_of_mem_images (by decide +kernel) (by decide)
      (isSeparator_of_isAlphanumeric h)

theorem isSeparator_of_mem_toUppercase {c : Char} (h : isAlphanumeric c) :
    ∀ d ∈ toUppercase c, isSeparator d = false := by
  unfold toUppercase
  split
  · next hc =>
      exact List.forall_mem_singleton.mpr
        (forall_ascii (P := fun c => isAlphanumeric c → isSeparator c.toUpper = false)
          (by decide +kernel) hc h)
  · exact CaseMapping.contains_eq_false_of_mem_images (by decide +kernel) (by decide)
      (isSeparator_of_isAlphanumeric h)

theorem SmallForm.isSeparator_of_mem {c : Char} {form : List Char} (hform : SmallForm c form)
    (h : isAlphanumeric c) : ∀ d ∈ form, isSeparator d = false := by
  cases hform with
  | plain => exact isSeparator_of_mem_toLowercase h
  | final _ => exact List.forall_mem_singleton.mpr (by decide)

theorem CaseForm.isSeparator_of_mem {c : Char} {form : List Char} (hform : CaseForm c form)
    (h : isAlphanumeric c) : ∀ d ∈ form, isSeparator d = false := by
  cases hform with
  | small hsmall => exact hsmall.isSeparator_of_mem h
  | capital => exact isSeparator_of_mem_toUppercase h

theorem CaseForm.of_space {form : List Char} (h : CaseForm ' ' form) : form = [' '] := by
  cases h with
  | small hsmall =>
      cases hsmall with
      | plain => decide
      | final hsigma => exact absurd hsigma (by decide)
  | capital => decide

end Relabel.Unicode

import Relabel.Proofs.Word.Shape
import Relabel.Proofs.Word.Spaced

/-!
# The pieces of ASCII identifiers

A text of the shape of an ASCII word is the only word of itself.  The segmentation and the scan for
changes of case that come after the split find no further cuts in it: it is a segment, joins no
space, and is not cut again.  So the pieces of an ASCII identifier are its words.  Of letters the
scan leaves nothing else whole.
-/

namespace Relabel.Word

open Relabel.Unicode

namespace AsciiWord

variable {word : List Char}

theorem ne_nil (h : AsciiWord word) : word ≠ [] := by
  cases h with
  | digits nonempty _ | capitals nonempty _ | small nonempty _ => exact nonempty
  | capitalized => simp

theorem isUpper_or_isLower_or_isDigit (h : AsciiWord word) :
    ∀ c ∈ word, c.isUpper ∨ c.isLower ∨ c.isDigit := by
  intro c hc
  cases h with
  | digits _ all => exact .inr (.inr (all c hc))
  | capitals _ all => exact .inl (all c hc)
  | small _ all => exact .inr (.inl (all c hc))
  | capitalized capital _ all =>
      rcases List.mem_cons.mp hc with rfl | hc
      · exact .inl capital
      · exact .inr (.inl (all c hc))

theorem isAscii (h : AsciiWord word) : ∀ c ∈ word, Unicode.isAscii c := by
  intro c hc
  rcases h.isUpper_or_isLower_or_isDigit c hc with hupper | hlower | hdigit
  · exact isAscii_of_isUpper hupper
  · exact isAscii_of_isLower hlower
  · exact isAscii_of_isDigit hdigit

theorem isAlphanumeric (h : AsciiWord word) : ∀ c ∈ word, Unicode.isAlphanumeric c := by
  intro c hc
  rcases h.isUpper_or_isLower_or_isDigit c hc with hupper | hlower | hdigit
  · exact isAlphanumeric_of_isUpper hupper
  · exact isAlphanumeric_of_isLower hlower
  · exact isAlphanumeric_of_isDigit hdigit

theorem wordBreak (h : AsciiWord word) :
    ∀ c ∈ word, Unicode.wordBreak c = .letter ∨ Unicode.wordBreak c = .numeric := by
  intro c hc
  have hascii := h.isAscii c hc
  rcases h.isUpper_or_isLower_or_isDigit c hc with hupper | hlower | hdigit
  · exact .inl (by simp [Unicode.wordBreak, hascii, isAlpha_eq, hupper])
  · exact .inl (by simp [Unicode.wordBreak, hascii, isAlpha_eq, hlower])
  · have hletters := isUpper_isLower_of_isDigit hdigit
    exact .inr (by simp [Unicode.wordBreak, hascii, isAlpha_eq, hletters, hdigit])

end AsciiWord

/-! ## Words on their own -/

theorem AsciiWord.not_parts {word : List Char} {x y : Char} {after : List Char} (h : AsciiWord word)
    (hsuffix : x :: y :: after <:+ word) : ¬ Parts x y after := by
  have hascii := h.isAscii
  have hx : x ∈ word := hsuffix.subset (by simp)
  have hy : y ∈ word := hsuffix.subset (by simp)
  cases h with
  | digits _ all => exact not_parts_of_isDigit (all x hx) (all y hy)
  | capitals _ all =>
      refine not_parts_of_isUpper (all x hx) (all y hy) fun z hz => ?_
      have hmem : z ∈ word := hsuffix.subset (by simp [List.mem_of_head? hz])
      simp [not_isLowercase_of_isUpper (all z hmem)]
  | small _ all =>
      have hxclass := isUpper_isDigit_of_isLower (all x hx)
      have hyclass := isUpper_isDigit_of_isLower (all y hy)
      exact not_parts_of_not_isUpper (hascii y hy) hyclass.1 (by rw [hxclass.2, hyclass.2])
  | @capitalized first rest capital _ all =>
      have hlower : y.isLower := by
        rcases List.suffix_cons_iff.mp hsuffix with heq | hrest
        · obtain ⟨rfl, rfl⟩ : x = first ∧ y :: after = rest := by simpa using heq
          exact all y (by simp)
        · exact all y (hrest.subset (by simp))
      have hdigit : x.isDigit = false := by
        rcases List.mem_cons.mp hx with rfl | hrest
        · exact (isLower_isDigit_of_isUpper capital).2
        · exact (isUpper_isDigit_of_isLower (all x hrest)).2
      have hyclass := isUpper_isDigit_of_isLower hlower
      exact not_parts_of_not_isUpper (hascii y hy) hyclass.1 (by rw [hdigit, hyclass.2])

theorem AsciiWord.split_eq {word : List Char} (h : AsciiWord word) : split word = [word] :=
  split_of_not_parts h.ne_nil h.isAlphanumeric fun _ _ _ => h.not_parts

/-! ## Segments of words -/

private theorem segmentsAfter_eq_singleton {base : WordBreak}
    (hbase : base = .letter ∨ base = .numeric) {tail : List Char}
    (htail : ∀ c ∈ tail, wordBreak c = .letter ∨ wordBreak c = .numeric) :
    segmentsAfter base tail = [tail] := by
  induction tail generalizing base with
  | nil => rfl
  | cons c tail ih =>
      obtain ⟨hc, htail⟩ := List.forall_mem_cons.mp htail
      have hrest := ih hc htail
      rcases hbase with rfl | rfl <;> rcases hc with hc | hc <;>
        simp_all [segmentsAfter, joins, glue]

theorem AsciiWord.segments_eq {word : List Char} (h : AsciiWord word) : segments word = [word] := by
  obtain ⟨c, tail, rfl⟩ := List.exists_cons_of_ne_nil h.ne_nil
  obtain ⟨hc, htail⟩ := List.forall_mem_cons.mp h.wordBreak
  rw [segments, segmentsAfter_eq_singleton hc htail, glue]

/-! ## Pieces of words -/

theorem glue_eq_singleton_iff {c d : Char} {rest : List Char} {found : List (List Char)} :
    glue c found = [c :: d :: rest] ↔ found = [d :: rest] := by
  cases found <;> simp [glue]

/-- The scan leaves a text whole if it cuts neither after nor before the first character and leaves
the rest whole, which it reads in the mode after that character. -/
theorem piecesFrom_eq_singleton_iff {mode : Mode} {c d : Char} {rest : List Char} :
    piecesFrom mode (c :: d :: rest) = [c :: d :: rest] ↔
      ¬ (mode.next c = .lower ∧ isUppercase d) ∧
      ¬ (mode = .upper ∧ isUppercase c ∧ isLowercase d) ∧
      piecesFrom (mode.next c) (d :: rest) = [d :: rest] := by
  by_cases hafter : mode.next c = .lower ∧ isUppercase d
  · have hscan : piecesFrom mode (c :: d :: rest) = [c] :: piecesFrom .fresh (d :: rest) := by
      rw [piecesFrom, if_pos (by simpa using hafter)]
    rw [hscan]
    simp [hafter]
  · by_cases hbefore : mode = .upper ∧ isUppercase c ∧ isLowercase d
    · have hscan : piecesFrom mode (c :: d :: rest) =
          [] :: glue c (piecesFrom .fresh (d :: rest)) := by
        rw [piecesFrom, if_neg (by simpa using hafter), if_pos (by simpa [and_assoc] using hbefore)]
      rw [hscan]
      simp [hbefore]
    · have hscan : piecesFrom mode (c :: d :: rest) =
          glue c (piecesFrom (mode.next c) (d :: rest)) := by
        rw [piecesFrom, if_neg (by simpa using hafter), if_neg (by simpa [and_assoc] using hbefore)]
      rw [hscan, glue_eq_singleton_iff]
      simp only [hafter, hbefore, not_false_eq_true, true_and]

private theorem piecesFrom_of_no_capital {mode : Mode} {c : Char} {rest : List Char}
    (hfirst : mode ≠ .upper ∨ isUppercase c = false)
    (hrest : ∀ d ∈ rest, isUppercase d = false) : piecesFrom mode (c :: rest) = [c :: rest] := by
  induction rest generalizing mode c with
  | nil => rfl
  | cons d rest ih =>
      obtain ⟨hd, hrest⟩ := List.forall_mem_cons.mp hrest
      rw [piecesFrom_eq_singleton_iff]
      refine ⟨by simp [hd], ?_, ih (.inr hd) hrest⟩
      rintro ⟨hmode, hc, -⟩
      simp [hmode, hc] at hfirst

private theorem piecesFrom_of_capitals {mode : Mode} {c : Char} {rest : List Char}
    (hall : ∀ d ∈ c :: rest, isUppercase d ∧ isLowercase d = false) :
    piecesFrom mode (c :: rest) = [c :: rest] := by
  induction rest generalizing mode c with
  | nil => rfl
  | cons d rest ih =>
      obtain ⟨hc, hall⟩ := List.forall_mem_cons.mp hall
      have hd := hall d List.mem_cons_self
      have hmode : mode.next c = .upper := by simp [Mode.next, hc]
      rw [piecesFrom_eq_singleton_iff]
      exact ⟨by simp [hmode], by simp [hd], ih hall⟩

theorem piecesFrom_asciiWord {word : List Char} (h : AsciiWord word) :
    piecesFrom .fresh word = [word] := by
  cases h with
  | digits nonempty all =>
      obtain ⟨c, rest, rfl⟩ := List.exists_cons_of_ne_nil nonempty
      exact piecesFrom_of_no_capital (.inl (by simp)) fun d hd =>
        not_isUppercase_of_isDigit (all d (List.mem_cons_of_mem c hd))
  | capitals nonempty all =>
      obtain ⟨c, rest, rfl⟩ := List.exists_cons_of_ne_nil nonempty
      exact piecesFrom_of_capitals fun d hd =>
        ⟨isUppercase_of_isUpper (all d hd), not_isLowercase_of_isUpper (all d hd)⟩
  | small nonempty all =>
      obtain ⟨c, rest, rfl⟩ := List.exists_cons_of_ne_nil nonempty
      exact piecesFrom_of_no_capital (.inl (by simp)) fun d hd =>
        not_isUppercase_of_isLower (all d (List.mem_cons_of_mem c hd))
  | capitalized capital nonempty all =>
      exact piecesFrom_of_no_capital (.inl (by simp)) fun d hd =>
        not_isUppercase_of_isLower (all d hd)

/-! ## Letters that are left whole -/

section

variable {c : Char} {rest : List Char}

theorem isLower_of_piecesFrom_eq {mode : Mode} (hc : c.isLower) (hrest : ∀ d ∈ rest, d.isAlpha)
    (h : piecesFrom mode (c :: rest) = [c :: rest]) : ∀ d ∈ rest, d.isLower := by
  induction rest generalizing mode c with
  | nil => exact List.forall_mem_nil _
  | cons d rest ih =>
      obtain ⟨hd, hrest⟩ := List.forall_mem_cons.mp hrest
      obtain ⟨hafter, -, htail⟩ := piecesFrom_eq_singleton_iff.mp h
      have hmode : mode.next c = .lower := if_pos (isLowercase_of_isLower hc)
      have hdupper : ¬ d.isUpper := fun hupper => hafter ⟨hmode, isUppercase_of_isUpper hupper⟩
      have hdlower : d.isLower := (Bool.or_eq_true_iff.mp hd).resolve_left hdupper
      exact List.forall_mem_cons.mpr ⟨hdlower, ih hdlower hrest htail⟩

theorem isUpper_of_piecesFrom_eq (hc : c.isUpper) (hrest : ∀ d ∈ rest, d.isAlpha)
    (h : piecesFrom .upper (c :: rest) = [c :: rest]) : ∀ d ∈ rest, d.isUpper := by
  induction rest generalizing c with
  | nil => exact List.forall_mem_nil _
  | cons d rest ih =>
      obtain ⟨hd, hrest⟩ := List.forall_mem_cons.mp hrest
      obtain ⟨-, hbefore, htail⟩ := piecesFrom_eq_singleton_iff.mp h
      have hcupper := isUppercase_of_isUpper hc
      have hmode : Mode.next .upper c = .upper := by
        simp [Mode.next, not_isLowercase_of_isUpper hc]
      have hdlower : ¬ d.isLower := fun hlower =>
        hbefore ⟨rfl, hcupper, isLowercase_of_isLower hlower⟩
      have hdupper : d.isUpper := (Bool.or_eq_true_iff.mp hd).resolve_right hdlower
      rw [hmode] at htail
      exact List.forall_mem_cons.mpr ⟨hdupper, ih hdupper hrest htail⟩

end

theorem asciiWord_of_piecesFrom_eq {letters : List Char} (hletters : ∀ c ∈ letters, c.isAlpha)
    (h : piecesFrom .fresh letters = [letters]) : AsciiWord letters := by
  cases letters with
  | nil => simp [piecesFrom] at h
  | cons c rest =>
      obtain ⟨hc, hrest⟩ := List.forall_mem_cons.mp hletters
      rcases Bool.or_eq_true_iff.mp hc with hupper | hlower
      · cases rest with
        | nil => exact .capitals (by simp) (by simpa using hupper)
        | cons d rest =>
            obtain ⟨hd, hrest⟩ := List.forall_mem_cons.mp hrest
            obtain ⟨-, -, htail⟩ := piecesFrom_eq_singleton_iff.mp h
            have hmode : Mode.next .fresh c = .upper := by
              simp [Mode.next, not_isLowercase_of_isUpper hupper, isUppercase_of_isUpper hupper]
            rw [hmode] at htail
            rcases Bool.or_eq_true_iff.mp hd with hdupper | hdlower
            · have hall := isUpper_of_piecesFrom_eq hdupper hrest htail
              exact .capitals (by simp) (by simpa [hupper, hdupper] using hall)
            · have hall := isLower_of_piecesFrom_eq hdlower hrest htail
              exact .capitalized hupper (by simp) (by simpa [hdlower] using hall)
      · have hall := isLower_of_piecesFrom_eq hlower hrest h
        exact .small (by simp) (by simpa [hlower] using hall)

/-! ## Pieces of identifiers -/

theorem AsciiWord.piecesOf_eq {word : List Char} (h : AsciiWord word) : piecesOf word = [word] := by
  have hany : word.any Unicode.isAlphanumeric := by
    obtain ⟨c, hc⟩ := List.exists_mem_of_ne_nil word h.ne_nil
    exact List.any_eq_true.mpr ⟨c, hc, h.isAlphanumeric c hc⟩
  rw [piecesOf, h.segments_eq, List.filter_cons, if_pos hany, List.filter_nil,
    List.flatMap_singleton, piecesFrom_asciiWord h]

theorem AsciiWord.piecesOf_space_eq {word : List Char} (h : AsciiWord word) :
    piecesOf (' ' :: word) = [word] := by
  obtain ⟨c, tail, rfl⟩ := List.exists_cons_of_ne_nil h.ne_nil
  have hclass : Unicode.wordBreak c ≠ .extend := by
    rcases h.wordBreak c List.mem_cons_self with hc | hc <;> simp [hc]
  rw [piecesOf_space_of_not_extend hclass, h.piecesOf_eq]

theorem pieces_of_isAscii {identifier : List Char} (h : ∀ c ∈ identifier, isAscii c) :
    pieces identifier = split identifier := by
  have hwords := asciiWord_of_mem_split h
  rw [pieces_eq]
  cases hsplit : split identifier with
  | nil => rfl
  | cons first others =>
      rw [hsplit] at hwords
      obtain ⟨hfirst, hothers⟩ := List.forall_mem_cons.mp hwords
      rw [piecesOf_intercalate, hfirst.piecesOf_eq,
        List.flatMap_congr fun word hmem => (hothers word hmem).piecesOf_space_eq,
        List.flatMap_singleton', List.singleton_append]

end Relabel.Word

namespace Relabel

open Relabel.Unicode Relabel.Word

/--
Every word of an ASCII identifier is a run of digits, a run of capitals, or small letters with at
most one capital before them.  All texts of these shapes are words, and the scan for changes of
case makes no cut inside them; of the other texts of ASCII letters it leaves none whole.
-/
theorem words_asciiWord :
    (∀ identifier : String, (∀ c ∈ identifier.toList, isAscii c) →
      ∀ word ∈ words identifier, AsciiWord word.toList) ∧
    (∀ word : String, AsciiWord word.toList →
      words word = [word] ∧ piecesFrom .fresh word.toList = [word.toList]) ∧
    ∀ letters : String, (∀ c ∈ letters.toList, c.isAlpha) →
      piecesFrom .fresh letters.toList = [letters.toList] → AsciiWord letters.toList := by
  refine ⟨?_, ?_, fun letters => asciiWord_of_piecesFrom_eq⟩
  · intro identifier hascii word hword
    obtain ⟨chars, hchars, rfl⟩ := List.mem_map.mp hword
    rw [String.toList_ofList]
    exact asciiWord_of_mem_split hascii chars hchars
  · intro word hword
    exact ⟨by simp [words, hword.split_eq], piecesFrom_asciiWord hword⟩

theorem acronym_and_capitalized_word_uncut :
    (∀ c ∈ "parcelHTTPRoute2".toList, isAscii c) ∧
    words "parcelHTTPRoute2" = ["parcel", "HTTP", "Route", "2"] ∧
    AsciiWord "Route".toList ∧
    words "Route" = ["Route"] ∧ piecesFrom .fresh "Route".toList = ["Route".toList] ∧
    (∀ c ∈ "HTTP".toList, c.isAlpha) ∧ piecesFrom .fresh "HTTP".toList = ["HTTP".toList] ∧
    AsciiWord "HTTP".toList ∧
    piecesFrom .fresh "HTTPRoute".toList = ["HTTP".toList, "Route".toList] := by
  have hascii : ∀ c ∈ "parcelHTTPRoute2".toList, isAscii c := by simp [isAscii]
  have hwords : words "parcelHTTPRoute2" = ["parcel", "HTTP", "Route", "2"] := by decide
  have hletters : ∀ c ∈ "HTTP".toList, c.isAlpha := by simp
  have hscan : piecesFrom .fresh "HTTP".toList = ["HTTP".toList] := by decide
  obtain ⟨hshape, hwhole, hletterwhole⟩ := words_asciiWord
  have hroute : AsciiWord "Route".toList :=
    hshape "parcelHTTPRoute2" hascii "Route" (by simp [hwords])
  obtain ⟨hsingle, huncut⟩ := hwhole "Route" hroute
  exact ⟨hascii, hwords, hroute, hsingle, huncut, hletters, hscan,
    hletterwhole "HTTP" hletters hscan, by decide⟩

end Relabel

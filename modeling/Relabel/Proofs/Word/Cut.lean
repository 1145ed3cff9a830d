import Mathlib.Data.List.Basic
import Relabel.Convention
import Relabel.Proofs.Word.Shape

/-!
# Where an identifier is cut

The split of an identifier is told by its result: words that lie in the identifier one after the
other, hold all its alphanumeric characters, and begin just where the rule for two neighbouring
characters says so.  There is one such list of words, and it is found again when the words are put
together with any separator between them.
-/

namespace Relabel.Word

open Relabel.Unicode

/-- Whether `y` begins a word right after `x`, when `after` is the text after `y`. -/
def Parts (x y : Char) (after : List Char) : Prop :=
  (isLowercase x ∧ isUppercase y) ∨ x.isDigit ≠ y.isDigit ∨
    (isUppercase x ∧ isUppercase y ∧
      ∃ z, after.head? = some z ∧ isAlphanumeric z ∧ isLowercase z)

/-- Whether the first of the words have just the alphanumeric characters of `before`, so that
the next such character begins a word. -/
def BeginsAfter (words : List (List Char)) (before : List Char) : Prop :=
  ∃ earlier, earlier <+: words ∧ earlier.flatten = before.filter isAlphanumeric

/-- Every word is a stretch of the text, at the place that the words ahead of it lead to. -/
def InPlace (text : List Char) (words : List (List Char)) : Prop :=
  ∀ earlier word, earlier ++ [word] <+: words →
    ∃ before, before ++ word <+: text ∧ before.filter isAlphanumeric = earlier.flatten

/-- Between neighbours in the text that are alphanumeric a word begins just where they are
parted. -/
def BeginByRule (text : List Char) (words : List (List Char)) : Prop :=
  ∀ before x y after, text = before ++ x :: y :: after → isAlphanumeric x → isAlphanumeric y →
    (BeginsAfter words (before ++ [x]) ↔ Parts x y after)

/-- Words that lie in the text in order, hold all that is alphanumeric in it, and begin by the
rule. -/
structure Cut (text : List Char) (words : List (List Char)) : Prop where
  nonempty : ∀ word ∈ words, word ≠ []
  alphanumeric : ∀ word ∈ words, ∀ c ∈ word, isAlphanumeric c
  inPlace : InPlace text words
  whole : words.flatten = text.filter isAlphanumeric
  begins : BeginByRule text words

variable {x y : Char} {word tail before after rest : List Char} {words : List (List Char)}

theorem startsWord_iff :
    startsWord x y (after.head?.filter isAlphanumeric) ↔ Parts x y after := by
  cases after with
  | nil => simp [startsWord, Parts]
  | cons z after =>
      cases hz : isAlphanumeric z <;> simp [startsWord, Parts, hz, or_assoc, and_assoc]

/-! ## Where words begin -/

theorem beginsAfter_nil : BeginsAfter words [] :=
  ⟨[], List.nil_prefix, rfl⟩

theorem beginsAfter_cons_separator (hx : ¬ isAlphanumeric x) :
    BeginsAfter words (x :: before) ↔ BeginsAfter words before := by
  simp [BeginsAfter, hx]

theorem beginsAfter_cons (hx : isAlphanumeric x) :
    BeginsAfter ([x] :: words) (x :: before) ↔ BeginsAfter words before := by
  constructor
  · rintro ⟨earlier, hstart, hearlier⟩
    cases earlier with
    | nil => simp [hx] at hearlier
    | cons first earlier =>
        obtain ⟨rfl, hlater⟩ := List.cons_prefix_cons.mp hstart
        exact ⟨earlier, hlater, by simpa [hx] using hearlier⟩
  · rintro ⟨earlier, hstart, hearlier⟩
    exact ⟨[x] :: earlier, by simpa using hstart, by simp [hx, hearlier]⟩

theorem beginsAfter_cons_cons (hx : isAlphanumeric x) :
    BeginsAfter ((x :: y :: tail) :: words) (x :: before) ↔
      before.filter isAlphanumeric ≠ [] ∧ BeginsAfter ((y :: tail) :: words) before := by
  constructor
  · rintro ⟨earlier, hstart, hearlier⟩
    cases earlier with
    | nil => simp [hx] at hearlier
    | cons first earlier =>
        obtain ⟨rfl, hlater⟩ := List.cons_prefix_cons.mp hstart
        have hbefore : y :: tail ++ earlier.flatten = before.filter isAlphanumeric := by
          simpa [hx] using hearlier
        refine ⟨by simp [← hbefore], (y :: tail) :: earlier, by simpa using hlater, ?_⟩
        simpa using hbefore
  · rintro ⟨hne, earlier, hstart, hearlier⟩
    cases earlier with
    | nil => exact absurd hearlier.symm hne
    | cons first earlier =>
        obtain ⟨rfl, hlater⟩ := List.cons_prefix_cons.mp hstart
        refine ⟨(x :: y :: tail) :: earlier, by simpa using hlater, ?_⟩
        simpa [hx] using hearlier

theorem beginByRule_cons_iff :
    BeginByRule (x :: rest) words ↔
      (∀ y after, rest = y :: after → isAlphanumeric x → isAlphanumeric y →
        (BeginsAfter words [x] ↔ Parts x y after)) ∧
      ∀ before y z after, rest = before ++ y :: z :: after → isAlphanumeric y → isAlphanumeric z →
        (BeginsAfter words (x :: (before ++ [y])) ↔ Parts y z after) := by
  constructor
  · intro h
    refine ⟨fun y after hrest => h [] x y after (by simp [hrest]), fun before y z after hrest => ?_⟩
    exact h (x :: before) y z after (by simp [hrest])
  · rintro ⟨hfirst, hlater⟩ before y z after htext
    cases before with
    | nil =>
        obtain ⟨rfl, hrest⟩ : x = y ∧ rest = z :: after := by simpa using htext
        exact hfirst z after hrest
    | cons c before =>
        obtain ⟨rfl, hrest⟩ : x = c ∧ rest = before ++ y :: z :: after := by simpa using htext
        exact hlater before y z after hrest

theorem beginByRule_cons_separator (hx : ¬ isAlphanumeric x) :
    BeginByRule (x :: rest) words ↔ BeginByRule rest words := by
  rw [beginByRule_cons_iff]
  simp only [hx, Bool.false_eq_true, false_implies, implies_true, true_and,
    beginsAfter_cons_separator hx, BeginByRule]

theorem beginByRule_cons (hx : isAlphanumeric x) :
    BeginByRule (x :: rest) ([x] :: words) ↔
      (∀ y after, rest = y :: after → isAlphanumeric y → Parts x y after) ∧
        BeginByRule rest words := by
  rw [beginByRule_cons_iff]
  simp only [beginsAfter_cons hx, beginsAfter_nil, hx, true_implies, true_iff, BeginByRule]

theorem beginByRule_cons_cons (hx : isAlphanumeric x) :
    BeginByRule (x :: rest) ((x :: y :: tail) :: words) ↔
      (∀ z after, rest = z :: after → isAlphanumeric z → ¬ Parts x z after) ∧
        BeginByRule rest ((y :: tail) :: words) := by
  have hfirst : ¬ BeginsAfter ((x :: y :: tail) :: words) [x] := by
    simp [beginsAfter_cons_cons hx]
  have hlater : ∀ before z, isAlphanumeric z →
      (BeginsAfter ((x :: y :: tail) :: words) (x :: (before ++ [z])) ↔
        BeginsAfter ((y :: tail) :: words) (before ++ [z])) := by
    intro before z hz
    simp [beginsAfter_cons_cons hx, hz]
  rw [beginByRule_cons_iff]
  simp +contextual only [hfirst, hlater, hx, true_implies, false_iff, BeginByRule]

/-! ## Words in their places -/

theorem inPlace_cons_separator (hx : ¬ isAlphanumeric x)
    (hwords : ∀ word ∈ words, word ≠ [] ∧ ∀ c ∈ word, isAlphanumeric c) :
    InPlace (x :: rest) words ↔ InPlace rest words := by
  refine forall₂_congr fun earlier word => imp_congr_right fun hstart => ?_
  obtain ⟨hnonempty, hword⟩ := hwords word (hstart.subset (by simp))
  constructor
  · rintro ⟨before, hbefore, hearlier⟩
    cases before with
    | nil =>
        obtain ⟨c, tail, rfl⟩ := List.exists_cons_of_ne_nil hnonempty
        obtain ⟨rfl, -⟩ := List.cons_prefix_cons.mp hbefore
        exact absurd (hword c (by simp)) hx
    | cons c before =>
        obtain ⟨rfl, hrest⟩ := List.cons_prefix_cons.mp hbefore
        exact ⟨before, hrest, by simpa [hx] using hearlier⟩
  · rintro ⟨before, hbefore, hearlier⟩
    exact ⟨x :: before, by simpa using hbefore, by simpa [hx] using hearlier⟩

theorem inPlace_cons_iff (hx : isAlphanumeric x) :
    InPlace (x :: rest) (word :: words) ↔ word <+: x :: rest ∧
      ∀ earlier other, earlier ++ [other] <+: words → ∃ before, before ++ other <+: x :: rest ∧
        before.filter isAlphanumeric = word ++ earlier.flatten := by
  constructor
  · intro h
    obtain ⟨before, hbefore, hearlier⟩ := h [] word (by simp)
    refine ⟨?_, fun earlier other hstart => ?_⟩
    · cases before with
      | nil => simpa using hbefore
      | cons c before =>
          obtain ⟨rfl, -⟩ := List.cons_prefix_cons.mp hbefore
          simp [hx] at hearlier
    · simpa using h (word :: earlier) other (by simpa using hstart)
  · rintro ⟨hfirst, hlater⟩ earlier other hstart
    cases earlier with
    | nil =>
        obtain rfl : other = word := by simpa [List.cons_prefix_cons] using hstart
        exact ⟨[], hfirst, rfl⟩
    | cons first earlier =>
        obtain ⟨rfl, hwords⟩ : first = word ∧ earlier ++ [other] <+: words := by
          simpa [List.cons_prefix_cons] using hstart
        simpa using hlater earlier other hwords

theorem exists_before_cons_iff (hx : isAlphanumeric x) {chars : List Char} :
    (∃ before, before ++ word <+: x :: rest ∧ before.filter isAlphanumeric = x :: chars) ↔
      ∃ before, before ++ word <+: rest ∧ before.filter isAlphanumeric = chars := by
  constructor
  · rintro ⟨before, hbefore, hchars⟩
    cases before with
    | nil => simp at hchars
    | cons c before =>
        obtain ⟨rfl, hrest⟩ := List.cons_prefix_cons.mp hbefore
        exact ⟨before, hrest, by simpa [hx] using hchars⟩
  · rintro ⟨before, hbefore, hchars⟩
    exact ⟨x :: before, by simpa using hbefore, by simpa [hx] using hchars⟩

theorem inPlace_cons (hx : isAlphanumeric x) :
    InPlace (x :: rest) ([x] :: words) ↔ InPlace rest words := by
  rw [inPlace_cons_iff hx]
  simp [exists_before_cons_iff hx, InPlace, List.cons_prefix_cons]

theorem inPlace_cons_cons (hx : isAlphanumeric x) (hy : isAlphanumeric y) :
    InPlace (x :: y :: after) ((x :: y :: tail) :: words) ↔
      InPlace (y :: after) ((y :: tail) :: words) := by
  rw [inPlace_cons_iff hx, inPlace_cons_iff hy]
  simp [exists_before_cons_iff hx, List.cons_prefix_cons]

/-! ## One character more -/

theorem cut_nil : Cut [] words ↔ words = [] := by
  constructor
  · intro h
    cases words with
    | nil => rfl
    | cons word words => simpa [h.nonempty word] using h.whole
  · rintro rfl
    exact ⟨by simp, by simp, by simp [InPlace], rfl, by simp [BeginByRule]⟩

theorem cut_cons_separator (hx : ¬ isAlphanumeric x) :
    Cut (x :: rest) words ↔ Cut rest words := by
  constructor
  · rintro ⟨nonempty, alphanumeric, inPlace, whole, begins⟩
    rw [inPlace_cons_separator hx fun word hword => ⟨nonempty word hword, alphanumeric word hword⟩]
      at inPlace
    exact ⟨nonempty, alphanumeric, inPlace, by simpa [hx] using whole,
      (beginByRule_cons_separator hx).mp begins⟩
  · rintro ⟨nonempty, alphanumeric, inPlace, whole, begins⟩
    rw [← inPlace_cons_separator hx
      fun word hword => ⟨nonempty word hword, alphanumeric word hword⟩] at inPlace
    exact ⟨nonempty, alphanumeric, inPlace, by simpa [hx] using whole,
      (beginByRule_cons_separator hx).mpr begins⟩

theorem cut_cons (hx : isAlphanumeric x) :
    Cut (x :: rest) ([x] :: words) ↔
      (∀ y after, rest = y :: after → isAlphanumeric y → Parts x y after) ∧ Cut rest words := by
  constructor
  · rintro ⟨nonempty, alphanumeric, inPlace, whole, begins⟩
    obtain ⟨hparts, hbegins⟩ := (beginByRule_cons hx).mp begins
    exact ⟨hparts, by simpa using nonempty, by simpa [hx] using alphanumeric,
      (inPlace_cons hx).mp inPlace, by simpa [hx] using whole, hbegins⟩
  · rintro ⟨hparts, nonempty, alphanumeric, inPlace, whole, begins⟩
    exact ⟨by simpa using nonempty, by simpa [hx] using alphanumeric, (inPlace_cons hx).mpr inPlace,
      by simpa [hx] using whole, (beginByRule_cons hx).mpr ⟨hparts, begins⟩⟩

theorem cut_cons_cons (hx : isAlphanumeric x) (hy : isAlphanumeric y) :
    Cut (x :: y :: after) ((x :: y :: tail) :: words) ↔
      ¬ Parts x y after ∧ Cut (y :: after) ((y :: tail) :: words) := by
  constructor
  · rintro ⟨nonempty, alphanumeric, inPlace, whole, begins⟩
    obtain ⟨hparts, hbegins⟩ := (beginByRule_cons_cons hx).mp begins
    exact ⟨hparts y after rfl hy, by simpa using nonempty, by simpa [hx] using alphanumeric,
      (inPlace_cons_cons hx hy).mp inPlace, by simpa [hx] using whole, hbegins⟩
  · rintro ⟨hparts, nonempty, alphanumeric, inPlace, whole, begins⟩
    refine ⟨by simpa using nonempty, by simpa [hx] using alphanumeric,
      (inPlace_cons_cons hx hy).mpr inPlace, by simpa [hx] using whole,
      (beginByRule_cons_cons hx).mpr ⟨?_, begins⟩⟩
    rintro z more ⟨rfl, rfl⟩ -
    exact hparts

theorem Cut.exists_cons (h : Cut (x :: rest) words) (hx : isAlphanumeric x) :
    ∃ tail later, words = (x :: tail) :: later ∧ tail <+: rest := by
  have hwhole := h.whole
  cases words with
  | nil => simp [hx] at hwhole
  | cons word later =>
      obtain ⟨c, tail, rfl⟩ := List.exists_cons_of_ne_nil (h.nonempty word (by simp))
      have hstart := ((inPlace_cons_iff hx).mp h.inPlace).1
      obtain ⟨rfl, htail⟩ := List.cons_prefix_cons.mp hstart
      exact ⟨tail, later, rfl, htail⟩

/-! ## The split -/

theorem split_cons_of_parts (hx : isAlphanumeric x)
    (hparts : ∀ y after, rest = y :: after → isAlphanumeric y → Parts x y after) :
    split (x :: rest) = [x] :: split rest := by
  cases rest with
  | nil => simp [split, hx]
  | cons y after =>
      have hstarts := fun hy => startsWord_iff.mpr (hparts y after rfl hy)
      rw [split, if_neg (by simp [hx]), if_neg]
      simpa using hstarts

theorem split_cons_cons_of_not_parts (hx : isAlphanumeric x) (hy : isAlphanumeric y)
    (hparts : ¬ Parts x y after) : split (x :: y :: after) = glue x (split (y :: after)) := by
  rw [← startsWord_iff] at hparts
  rw [split, if_neg (by simp [hx]), if_pos (by simp [hy, hparts])]

/-- Induction along a text and its words.  A character stands between words, or is a word that what
follows is parted from, or goes on with the first word of what follows. -/
theorem split_induction {P : List Char → List (List Char) → Prop} (nil : P [] [])
    (separator : ∀ x rest, ¬ isAlphanumeric x → P rest (split rest) → P (x :: rest) (split rest))
    (parted : ∀ x rest, isAlphanumeric x →
      (∀ y after, rest = y :: after → isAlphanumeric y → Parts x y after) →
      P rest (split rest) → P (x :: rest) ([x] :: split rest))
    (joined : ∀ x y after tail words, isAlphanumeric x → isAlphanumeric y → ¬ Parts x y after →
      tail <+: after → P (y :: after) ((y :: tail) :: words) →
      P (x :: y :: after) ((x :: y :: tail) :: words))
    (text : List Char) : P text (split text) := by
  induction text with
  | nil => exact nil
  | cons x rest ih =>
      by_cases hx : isAlphanumeric x
      · by_cases hparts : ∀ y after, rest = y :: after → isAlphanumeric y → Parts x y after
        · rw [split_cons_of_parts hx hparts]
          exact parted x rest hx hparts ih
        · obtain ⟨y, after, rfl, hy, hparts⟩ :
              ∃ y after, rest = y :: after ∧ isAlphanumeric y ∧ ¬ Parts x y after := by
            simpa using hparts
          obtain ⟨tail, words, hsplit, hstart⟩ := split_cons_of_isAlphanumeric hy after
          rw [split_cons_cons_of_not_parts hx hy hparts, hsplit, glue]
          exact joined x y after tail words hx hy hparts hstart (hsplit ▸ ih)
      · rw [split_cons_of_not_isAlphanumeric hx]
        exact separator x rest hx ih

theorem cut_split (text : List Char) : Cut text (split text) := by
  refine split_induction (P := Cut) (cut_nil.mpr rfl) ?_ ?_ ?_ text
  · intro x rest hx ih
    exact (cut_cons_separator hx).mpr ih
  · intro x rest hx hparts ih
    exact (cut_cons hx).mpr ⟨hparts, ih⟩
  · intro x y after tail words hx hy hparts _ ih
    exact (cut_cons_cons hx hy).mpr ⟨hparts, ih⟩

theorem Cut.eq_split {text : List Char} (h : Cut text words) : words = split text := by
  induction text generalizing words with
  | nil => exact cut_nil.mp h
  | cons x rest ih =>
      by_cases hx : isAlphanumeric x
      · obtain ⟨tail, later, rfl, hstart⟩ := h.exists_cons hx
        cases tail with
        | nil =>
            obtain ⟨hparts, hrest⟩ := (cut_cons hx).mp h
            rw [split_cons_of_parts hx hparts, ih hrest]
        | cons y tail =>
            obtain ⟨after, rfl⟩ := hstart
            have hy : isAlphanumeric y := h.alphanumeric (x :: y :: tail) (by simp) y (by simp)
            rw [List.cons_append] at h ih ⊢
            obtain ⟨hparts, hrest⟩ := (cut_cons_cons hx hy).mp h
            rw [split_cons_cons_of_not_parts hx hy hparts, ← ih hrest, glue]
      · rw [split_cons_of_not_isAlphanumeric hx]
        exact ih ((cut_cons_separator hx).mp h)

/-! ## Texts of one word and of several parts -/

theorem split_of_not_parts (hne : word ≠ []) (hword : ∀ c ∈ word, isAlphanumeric c)
    (hparts : ∀ x y after, x :: y :: after <:+ word → ¬ Parts x y after) : split word = [word] := by
  induction word with
  | nil => exact absurd rfl hne
  | cons x rest ih =>
      have hx := hword x (by simp)
      cases rest with
      | nil => simp [split, hx]
      | cons y after =>
          have hy := hword y (by simp)
          have hrest := ih (by simp) (fun c hc => hword c (List.mem_cons_of_mem x hc))
            fun a b later hsuffix => hparts a b later (hsuffix.trans (List.suffix_cons x _))
          rw [split_cons_cons_of_not_parts hx hy (hparts x y after List.suffix_rfl), hrest, glue]

theorem parts_append_iff
    (hrest : ∀ z later, rest = z :: later → isAlphanumeric z → ¬ isLowercase z) :
    Parts x y (after ++ rest) ↔ Parts x y after := by
  cases after with
  | cons z after => simp [Parts]
  | nil =>
      cases rest with
      | nil => rfl
      | cons z later =>
          have hz : ¬ (isAlphanumeric z ∧ isLowercase z) := not_and.mpr (hrest z later rfl)
          simp [Parts, hz]

/-- A text is split part by part, where a word begins between the parts.  The first part must not
be read in the light of a small letter after it. -/
theorem split_append
    (hsmall : ∀ y after, rest = y :: after → isAlphanumeric y → ¬ isLowercase y)
    (hparts : ∀ x ∈ before.getLast?, ∀ y after, rest = y :: after →
      isAlphanumeric x → isAlphanumeric y → Parts x y after) :
    split (before ++ rest) = split before ++ split rest := by
  induction before with
  | nil => rfl
  | cons x before ih =>
      have hbefore := ih fun z hz => hparts z (List.mem_getLast?_cons hz)
      rw [List.cons_append]
      by_cases hx : isAlphanumeric x
      · cases before with
        | nil =>
            rw [List.nil_append,
              split_cons_of_parts hx fun y after htext => hparts x (by simp) y after htext hx]
            simp [split, hx]
        | cons y before =>
            -- The rule looks one character ahead, which is past the part if `y` ends it.
            rw [List.cons_append] at hbefore ⊢
            by_cases hjoined : isAlphanumeric y ∧ ¬ Parts x y before
            · obtain ⟨hy, hjoined⟩ := hjoined
              obtain ⟨tail, words, hsplit, -⟩ := split_cons_of_isAlphanumeric hy before
              rw [split_cons_cons_of_not_parts hx hy (mt (parts_append_iff hsmall).mp hjoined),
                hbefore, split_cons_cons_of_not_parts hx hy hjoined, hsplit]
              rfl
            · have hcut : isAlphanumeric y → Parts x y before := by simpa using hjoined
              rw [split_cons_of_parts hx, split_cons_of_parts hx, hbefore, List.cons_append]
              · rintro z after ⟨rfl, rfl⟩ hz
                exact hcut hz
              · rintro z after ⟨rfl, rfl⟩ hz
                exact (parts_append_iff hsmall).mpr (hcut hz)
      · rw [split_cons_of_not_isAlphanumeric hx, split_cons_of_not_isAlphanumeric hx, hbefore]

/-! ## Neighbours in ASCII -/

theorem parts_of_isLower (hx : x.isLower) (hy : y.isDigit ∨ y.isUpper) : Parts x y after := by
  have hxclass := isUpper_isDigit_of_isLower hx
  rcases hy with hdigit | hupper
  · exact .inr (.inl (by simp [hxclass, hdigit]))
  · exact .inl ⟨isLowercase_of_isLower hx, isUppercase_of_isUpper hupper⟩

theorem parts_of_acronym {z : Char} (hx : x.isUpper) (hy : y.isUpper) (hz : z.isLower) :
    Parts x y (z :: after) := by
  exact .inr (.inr ⟨isUppercase_of_isUpper hx, isUppercase_of_isUpper hy, z, rfl,
    isAlphanumeric_of_isLower hz, isLowercase_of_isLower hz⟩)

theorem not_parts_of_not_isUpper (hy : isAscii y) (hupper : y.isUpper = false)
    (hdigit : x.isDigit = y.isDigit) : ¬ Parts x y after := by
  simp [Parts, isUppercase_of_isAscii hy, hupper, hdigit]

theorem not_parts_of_isDigit (hx : x.isDigit) (hy : y.isDigit) : ¬ Parts x y after :=
  not_parts_of_not_isUpper (isAscii_of_isDigit hy) (isUpper_isLower_of_isDigit hy).1
    (by rw [hx, hy])

theorem not_parts_of_isUpper (hx : x.isUpper) (hy : y.isUpper)
    (hafter : ∀ z, after.head? = some z → ¬ isLowercase z) : ¬ Parts x y after := by
  have hxclass := isLower_isDigit_of_isUpper hx
  have hyclass := isLower_isDigit_of_isUpper hy
  simp +contextual [Parts, not_isLowercase_of_isUpper hx, hxclass, hyclass, hafter]

/-! ## Words with a separator between them -/

theorem split_append_of_separator (hrest : rest.head?.all fun c => !isAlphanumeric c) :
    split (before ++ rest) = split before ++ split rest := by
  have hapart : ∀ y after, rest = y :: after → ¬ isAlphanumeric y := by
    rintro y after rfl
    simpa using hrest
  exact split_append (fun y after htext hy => absurd hy (hapart y after htext))
    fun x _ y after htext _ hy => absurd hy (hapart y after htext)

variable {separator : List Char}

theorem split_separator_append (hseparator : ∀ c ∈ separator, ¬ isAlphanumeric c) :
    split (separator ++ rest) = split rest := by
  induction separator with
  | nil => rfl
  | cons c separator ih =>
      rw [List.cons_append, split_cons_of_not_isAlphanumeric (hseparator c (by simp)),
        ih fun d hd => hseparator d (List.mem_cons_of_mem c hd)]

theorem Parts.mono (h : Parts x y after) (hstart : after <+: rest) : Parts x y rest := by
  refine h.imp_right (Or.imp_right ?_)
  rintro ⟨hx, hy, z, hz, hclass⟩
  obtain ⟨later, rfl⟩ := hstart
  exact ⟨hx, hy, z, by simp [List.head?_append, hz], hclass⟩

theorem split_of_mem_split (text : List Char) : ∀ word ∈ split text, split word = [word] := by
  refine split_induction (P := fun _ words => ∀ word ∈ words, split word = [word])
    (List.forall_mem_nil _) (fun _ _ _ ih => ih) ?_ ?_ text
  · intro x rest hx _ ih
    exact List.forall_mem_cons.mpr ⟨by simp [split, hx], ih⟩
  · intro x y after tail words hx hy hparts hstart ih
    obtain ⟨hword, hwords⟩ := List.forall_mem_cons.mp ih
    -- Where the word ends after `y`, the rule no longer sees what follows `y` in the text.
    have halone : ¬ Parts x y tail := fun h => hparts (h.mono hstart)
    refine List.forall_mem_cons.mpr ⟨?_, hwords⟩
    rw [split_cons_cons_of_not_parts hx hy halone, hword, glue]

theorem split_joined (hne : separator ≠ []) (hseparator : ∀ c ∈ separator, ¬ isAlphanumeric c)
    (hwords : ∀ word ∈ words, split word = [word]) :
    split (separator.intercalate words) = words := by
  induction words with
  | nil => rfl
  | cons word words ih =>
      have hword := hwords word (by simp)
      have hlater := ih fun other hother => hwords other (List.mem_cons_of_mem word hother)
      cases words with
      | nil => simpa using hword
      | cons next words =>
          obtain ⟨c, others, rfl⟩ := List.exists_cons_of_ne_nil hne
          have hfirst : ¬ isAlphanumeric c := hseparator c (by simp)
          rw [List.intercalate_cons_cons, List.append_assoc,
            split_append_of_separator (by simpa using hfirst), split_separator_append hseparator,
            hword, hlater, List.singleton_append]

end Relabel.Word

namespace Relabel

open Relabel.Unicode

/--
The words of an identifier are the one list of words in it that hold all its alphanumeric
characters in order, where a word begins between two neighbours just as they are parted: at a
capital after a small letter, between a digit and something else, and at a capital after a capital
that a small letter follows.
-/
theorem words_eq_iff (identifier : String) (found : List String) :
    words identifier = found ↔ Word.Cut identifier.toList (found.map String.toList) := by
  constructor
  · rintro rfl
    simpa [words] using Word.cut_split identifier.toList
  · intro h
    rw [words, ← h.eq_split]
    simp

example : words "parseHTTPResponse_2" = ["parse", "HTTP", "Response", "2"] := by decide

/--
The words of an identifier are stable: put together with a separator between them they are found
again, and each of them is its own only word.
-/
theorem words_intercalate_words (identifier : String) :
    (∀ separator : String, separator ≠ "" → (∀ c ∈ separator.toList, ¬ isAlphanumeric c) →
      words (separator.intercalate (words identifier)) = words identifier) ∧
    ∀ word ∈ words identifier, words word = [word] := by
  have hwords := Word.split_of_mem_split identifier.toList
  constructor
  · intro separator hne hseparator
    have hchars : separator.toList ≠ [] := by simpa using hne
    have hjoined := Word.split_joined hchars hseparator hwords
    simp [words, String.toList_intercalate, hjoined]
  · intro word hword
    obtain ⟨chars, hchars, rfl⟩ := List.mem_map.mp hword
    simp [words, hwords chars hchars]

theorem acronym_found_again_between_separators :
    " - " ≠ "" ∧ (∀ c ∈ " - ".toList, ¬ isAlphanumeric c) ∧
    words "parcelHTTPRoute2" = ["parcel", "HTTP", "Route", "2"] ∧
    words "parcel - HTTP - Route - 2" = ["parcel", "HTTP", "Route", "2"] ∧
    words "HTTP" = ["HTTP"] := by
  have hclass : isAlphanumeric ' ' = false ∧ isAlphanumeric '-' = false := by decide
  have hseparator : ∀ c ∈ " - ".toList, ¬ isAlphanumeric c := by simp [hclass]
  have hwords : words "parcelHTTPRoute2" = ["parcel", "HTTP", "Route", "2"] := by decide
  obtain ⟨hjoined, halone⟩ := words_intercalate_words "parcelHTTPRoute2"
  rw [hwords] at hjoined halone
  exact ⟨by decide, hseparator, hwords, hjoined " - " (by decide) hseparator,
    halone "HTTP" (by simp)⟩

end Relabel

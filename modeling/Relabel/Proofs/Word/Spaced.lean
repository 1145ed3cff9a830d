import Relabel.Convention
import Relabel.Proofs.Word.Cut

/-!
# The pieces of spaced words

The segmentation of the spaced words and the scan for case lose no character and leave no piece
without an alphanumeric character.  A space belongs to no piece, unless the word after it starts
with a combining character: that one joins the space, and the two are kept together.
-/

namespace Relabel.Word

open Relabel.Unicode

variable {c x : Char} {text before word tail : List Char} {words found : List (List Char)}

/-! ## Pieces of a text -/

theorem glue_append (h : found ≠ []) (others : List (List Char)) :
    glue c (found ++ others) = glue c found ++ others := by
  obtain ⟨piece, found, rfl⟩ := List.exists_cons_of_ne_nil h
  rfl

theorem ne_nil_of_mem_glue (h : ∀ part ∈ found.tail, part ≠ []) :
    ∀ part ∈ glue c found, part ≠ [] := by
  cases found with
  | nil => simp [glue]
  | cons part found => simpa [glue] using h

theorem flatten_piecesFrom (mode : Mode) (text : List Char) :
    (piecesFrom mode text).flatten = text := by
  fun_induction piecesFrom mode text with
  | case1 => rfl
  | case2 => rfl
  | case3 mode c d rest _ ih => rw [List.flatten_cons, ih, List.singleton_append]
  | case4 mode c d rest _ _ ih => rw [List.flatten_cons, flatten_glue, ih, List.nil_append]
  | case5 mode c d rest _ _ ih => rw [flatten_glue, ih]

theorem piecesFrom_ne_nil (mode : Mode) (text : List Char) :
    (∀ piece ∈ (piecesFrom mode text).tail, piece ≠ []) ∧
      (mode ≠ .upper → ∀ piece ∈ piecesFrom mode text, piece ≠ []) := by
  fun_induction piecesFrom mode text with
  | case1 => simp
  | case2 => simp
  | case3 mode c d rest _ ih =>
      have hrest := ih.2 (by decide)
      exact ⟨hrest, fun _ => List.forall_mem_cons.mpr ⟨by simp, hrest⟩⟩
  | case4 mode c d rest _ hcut ih =>
      refine ⟨ne_nil_of_mem_glue ih.1, fun hmode => ?_⟩
      simp [hmode] at hcut
  | case5 mode c d rest _ _ ih =>
      have hglued : ∀ piece ∈ glue c (piecesFrom (mode.next c) (d :: rest)), piece ≠ [] :=
        ne_nil_of_mem_glue ih.1
      exact ⟨fun piece hpiece => hglued piece (List.mem_of_mem_tail hpiece), fun _ => hglued⟩

/-! ## Segments of a text -/

theorem segmentsAfter_eq_cons (base : WordBreak) (text : List Char) :
    ∃ rest others, segmentsAfter base text = rest :: others ∧
      (rest :: others).flatten = text ∧ ∀ segment ∈ others, segment ≠ [] := by
  induction text generalizing base with
  | nil => exact ⟨[], [], rfl, rfl, List.forall_mem_nil _⟩
  | cons c text ih =>
      rw [segmentsAfter]
      split
      · obtain ⟨rest, others, hsegments, hflatten, hothers⟩ :=
          ih (if wordBreak c = .extend then base else wordBreak c)
        refine ⟨c :: rest, others, by rw [hsegments, glue], ?_, hothers⟩
        rw [← hflatten]
        rfl
      · obtain ⟨rest, others, hsegments, hflatten, hothers⟩ := ih (wordBreak c)
        refine ⟨[], (c :: rest) :: others, by rw [hsegments, glue], ?_, ?_⟩
        · rw [← hflatten]
          rfl
        · exact List.forall_mem_cons.mpr ⟨by simp, hothers⟩

theorem flatten_segments (text : List Char) : (segments text).flatten = text := by
  cases text with
  | nil => rfl
  | cons c text =>
      obtain ⟨rest, others, hsegments, hflatten, -⟩ := segmentsAfter_eq_cons (wordBreak c) text
      rw [segments, flatten_glue, hsegments, hflatten]

theorem ne_nil_of_mem_segments : ∀ segment ∈ segments text, segment ≠ [] := by
  cases text with
  | nil => simp [segments]
  | cons c text =>
      obtain ⟨rest, others, hsegments, -, hothers⟩ := segmentsAfter_eq_cons (wordBreak c) text
      rw [segments, hsegments]
      exact ne_nil_of_mem_glue hothers

theorem wordBreak_space : wordBreak ' ' = .single := by decide

theorem segmentsAfter_append_space (base : WordBreak) (before text : List Char) :
    segmentsAfter base (before ++ ' ' :: text) =
      segmentsAfter base before ++ segments (' ' :: text) := by
  induction before generalizing base with
  | nil => cases base <;> simp [segmentsAfter, segments, wordBreak_space, joins]
  | cons c before ih =>
      have hne (base : WordBreak) : segmentsAfter base before ≠ [] := by
        obtain ⟨rest, others, hsegments, -⟩ := segmentsAfter_eq_cons base before
        rw [hsegments]
        exact List.cons_ne_nil _ _
      rw [List.cons_append, segmentsAfter, segmentsAfter, ih, ih, glue_append (hne _),
        glue_append (hne _)]
      split <;> rfl

theorem segments_append_space (before text : List Char) :
    segments (before ++ ' ' :: text) = segments before ++ segments (' ' :: text) := by
  cases before with
  | nil => rfl
  | cons c before =>
      obtain ⟨rest, others, hsegments, -⟩ := segmentsAfter_eq_cons (wordBreak c) before
      rw [List.cons_append, segments, segments, segmentsAfter_append_space, hsegments,
        glue_append (List.cons_ne_nil _ _)]

/-! ## Pieces of a word -/

/-- The pieces of the segments of a text that hold an alphanumeric character. -/
def piecesOf (text : List Char) : List (List Char) :=
  ((segments text).filter (·.any isAlphanumeric)).flatMap (piecesFrom .fresh)

theorem pieces_eq (identifier : List Char) :
    pieces identifier = piecesOf ([' '].intercalate (split identifier)) := rfl

theorem piecesOf_append_space (before text : List Char) :
    piecesOf (before ++ ' ' :: text) = piecesOf before ++ piecesOf (' ' :: text) := by
  rw [piecesOf, segments_append_space, List.filter_append, List.flatMap_append]
  rfl

theorem flatten_piecesOf (text : List Char) :
    (piecesOf text).flatten = ((segments text).filter (·.any isAlphanumeric)).flatten := by
  unfold piecesOf
  induction (segments text).filter (·.any isAlphanumeric) with
  | nil => rfl
  | cons segment segments ih => simp [flatten_piecesFrom, ih]

theorem any_of_mem_glue (hne : found ≠ []) (h : ∀ part ∈ found, part.any isAlphanumeric) :
    ∀ part ∈ glue c found, part.any isAlphanumeric := by
  obtain ⟨first, others, rfl⟩ := List.exists_cons_of_ne_nil hne
  obtain ⟨hfirst, hothers⟩ := List.forall_mem_cons.mp h
  refine List.forall_mem_cons.mpr ⟨?_, hothers⟩
  rw [List.any_cons, hfirst, Bool.or_true]

theorem any_of_mem_of_flatten (hword : ∀ c ∈ word, isAlphanumeric c)
    (hflatten : found.flatten = word) (hne : ∀ part ∈ found, part ≠ []) :
    ∀ part ∈ found, part.any isAlphanumeric := by
  intro part hpart
  obtain ⟨d, hd⟩ := List.exists_mem_of_ne_nil part (hne part hpart)
  have hmem : d ∈ word := hflatten ▸ List.mem_flatten_of_mem hpart hd
  exact List.any_eq_true.mpr ⟨d, hd, hword d hmem⟩

theorem any_of_mem_piecesFrom (hword : ∀ c ∈ word, isAlphanumeric c) :
    ∀ piece ∈ piecesFrom .fresh word, piece.any isAlphanumeric :=
  any_of_mem_of_flatten hword (flatten_piecesFrom .fresh word)
    ((piecesFrom_ne_nil .fresh word).2 (by decide))

theorem piecesOf_word (hword : ∀ c ∈ word, isAlphanumeric c) :
    (piecesOf word).flatten = word ∧ ∀ piece ∈ piecesOf word, piece.any isAlphanumeric := by
  have hsegments :=
    any_of_mem_of_flatten hword (flatten_segments word) fun _ => ne_nil_of_mem_segments _
  constructor
  · rw [flatten_piecesOf, List.filter_eq_self.mpr hsegments, flatten_segments]
  · intro piece hpiece
    obtain ⟨segment, hsegment, hpiece⟩ := List.mem_flatMap.mp hpiece
    have hmem : segment ∈ segments word := (List.mem_filter.mp hsegment).1
    refine any_of_mem_piecesFrom (fun d hd => hword d ?_) piece hpiece
    rw [← flatten_segments word]
    exact List.mem_flatten_of_mem hmem hd

/-! ## Pieces of a word after a space -/

/-- Whether a word joins the space before it. -/
def combines (word : List Char) : Bool :=
  word.head?.any fun c => wordBreak c == .extend

theorem segments_space_of_not_extend (hx : wordBreak x ≠ .extend) :
    segments (' ' :: x :: tail) = [' '] :: segments (x :: tail) := by
  have hjoins : joins .single (wordBreak x) = false := by
    cases hclass : wordBreak x <;> first | rfl | contradiction
  simp [segments, segmentsAfter, wordBreak_space, hjoins, glue]

theorem segments_space_of_extend (tail : List Char) (hx : wordBreak x = .extend) :
    ∃ rest others, segments (' ' :: x :: tail) = (' ' :: x :: rest) :: others ∧
      (rest :: others).flatten = tail ∧ ∀ segment ∈ others, segment ≠ [] := by
  obtain ⟨rest, others, hsegments, hflatten, hothers⟩ := segmentsAfter_eq_cons .single tail
  refine ⟨rest, others, ?_, hflatten, hothers⟩
  simp [segments, segmentsAfter, wordBreak_space, hx, joins, hsegments, glue]

theorem piecesFrom_space : piecesFrom .fresh (' ' :: x :: tail) =
    glue ' ' (piecesFrom .fresh (x :: tail)) := by
  have hlower : isLowercase ' ' = false := by decide
  have hupper : isUppercase ' ' = false := by decide
  simp [piecesFrom, Mode.next, hlower, hupper]

theorem piecesOf_space_of_not_extend (hclass : wordBreak x ≠ .extend) :
    piecesOf (' ' :: x :: tail) = piecesOf (x :: tail) := by
  have hspace : isAlphanumeric ' ' = false := by decide
  rw [piecesOf, segments_space_of_not_extend hclass, List.filter_cons, if_neg (by simp [hspace])]
  rfl

theorem piecesOf_space_of_extend (hclass : wordBreak x = .extend) (hx : isAlphanumeric x)
    (htail : ∀ c ∈ tail, isAlphanumeric c) :
    (piecesOf (' ' :: x :: tail)).flatten = ' ' :: x :: tail ∧
      ∀ piece ∈ piecesOf (' ' :: x :: tail), piece.any isAlphanumeric := by
  obtain ⟨rest, others, hsegments, hflatten, hothers⟩ := segments_space_of_extend tail hclass
  have hrest : ∀ c ∈ rest, isAlphanumeric c := fun c hc =>
    htail c (hflatten ▸ List.mem_flatten_of_mem List.mem_cons_self hc)
  have hlater : ∀ segment ∈ others, ∀ c ∈ segment, isAlphanumeric c := fun segment hmem c hc =>
    htail c (hflatten ▸ List.mem_flatten_of_mem (List.mem_cons_of_mem rest hmem) hc)
  have hkeep : ∀ segment ∈ segments (' ' :: x :: tail), segment.any isAlphanumeric := by
    rw [hsegments]
    refine List.forall_mem_cons.mpr ⟨by simp [hx], any_of_mem_of_flatten ?_ rfl hothers⟩
    intro c hc
    obtain ⟨segment, hmem, hc⟩ := List.mem_flatten.mp hc
    exact hlater segment hmem c hc
  constructor
  · rw [flatten_piecesOf, List.filter_eq_self.mpr hkeep, flatten_segments]
  · rw [piecesOf, List.filter_eq_self.mpr hkeep, hsegments, List.flatMap_cons, piecesFrom_space]
    have hfirst := any_of_mem_piecesFrom (List.forall_mem_cons.mpr ⟨hx, hrest⟩)
    have hne : piecesFrom .fresh (x :: rest) ≠ [] := fun h => by
      simpa [h] using flatten_piecesFrom .fresh (x :: rest)
    intro piece hpiece
    rcases List.mem_append.mp hpiece with hpiece | hpiece
    · exact any_of_mem_glue hne hfirst piece hpiece
    · obtain ⟨segment, hmem, hpiece⟩ := List.mem_flatMap.mp hpiece
      exact any_of_mem_piecesFrom (hlater segment hmem) piece hpiece

theorem piecesOf_space_word (hne : word ≠ []) (hword : ∀ c ∈ word, isAlphanumeric c) :
    (piecesOf (' ' :: word)).flatten = (if combines word then ' ' :: word else word) ∧
      ∀ piece ∈ piecesOf (' ' :: word), piece.any isAlphanumeric := by
  obtain ⟨x, tail, rfl⟩ := List.exists_cons_of_ne_nil hne
  obtain ⟨hx, htail⟩ := List.forall_mem_cons.mp hword
  by_cases hclass : wordBreak x = .extend
  · rw [if_pos (by simpa [combines] using hclass)]
    exact piecesOf_space_of_extend hclass hx htail
  · rw [piecesOf_space_of_not_extend hclass, combines, if_neg (by simpa using hclass)]
    exact piecesOf_word hword

/-! ## Pieces of spaced words -/

theorem piecesOf_intercalate (first : List Char) (others : List (List Char)) :
    piecesOf ([' '].intercalate (first :: others)) =
      piecesOf first ++ others.flatMap fun word => piecesOf (' ' :: word) := by
  induction others generalizing first with
  | nil => simp
  | cons next others ih =>
      have hspaced : ' ' :: [' '].intercalate (next :: others) =
          [' '].intercalate ((' ' :: next) :: others) := by
        cases others <;> simp
      rw [List.intercalate_cons_cons, List.append_assoc, List.singleton_append,
        piecesOf_append_space, hspaced, ih, List.flatMap_cons]

/-- The words one after the other, with a space before each that joins it. -/
def joinSpaced : List (List Char) → List Char
  | [] => []
  | first :: others =>
      first ++ others.flatMap fun word => if combines word then ' ' :: word else word

theorem pieces_spec (identifier : List Char) :
    (pieces identifier).flatten = joinSpaced (split identifier) ∧
      ∀ piece ∈ pieces identifier, piece.any isAlphanumeric := by
  have hcut := cut_split identifier
  rw [pieces_eq]
  cases hwords : split identifier with
  | nil => exact ⟨rfl, List.forall_mem_nil _⟩
  | cons first others =>
      have hne : ∀ word ∈ first :: others, word ≠ [] := hwords ▸ hcut.nonempty
      have hall : ∀ word ∈ first :: others, ∀ c ∈ word, isAlphanumeric c :=
        hwords ▸ hcut.alphanumeric
      obtain ⟨hflatten, hany⟩ := piecesOf_word (hall first List.mem_cons_self)
      have hothers (word : List Char) (hmem : word ∈ others) :=
        piecesOf_space_word (hne word (List.mem_cons_of_mem first hmem))
          (hall word (List.mem_cons_of_mem first hmem))
      rw [piecesOf_intercalate]
      constructor
      · rw [List.flatten_append, hflatten, joinSpaced, List.flatMap_def, List.flatten_flatten,
          List.map_map, ← List.flatMap_def]
        congr 1
        exact List.flatMap_congr fun word hmem => (hothers word hmem).1
      · intro piece hpiece
        rcases List.mem_append.mp hpiece with hpiece | hpiece
        · exact hany piece hpiece
        · obtain ⟨word, hmem, hpiece⟩ := List.mem_flatMap.mp hpiece
          exact (hothers word hmem).2 piece hpiece

end Relabel.Word

import Relabel.Proofs.Word.Boundary
import Relabel.Proofs.Word.Cut

/-!
# Words that adjoin

Two consecutive words adjoin if no character of the text stands between them.  They do so exactly
where two neighbours in the text are parted, the one at the end of the first word and the other at the
start of the second.  A small ASCII letter is parted from an ASCII capital or digit after it, so a name
without separators is divided exactly if two of its words adjoin at such a place.
-/

namespace Relabel.Word

open Relabel.Unicode

/-- The second word begins in the text right where the first one ends. -/
def Adjoin (text : List Char) (words : List (List Char)) (first second : List Char) : Prop :=
  ∃ earlier before, earlier ++ [first, second] <+: words ∧ before ++ first ++ second <+: text ∧
    before.filter isAlphanumeric = earlier.flatten

variable {x y : Char} {text before other first second : List Char}
variable {words earlier : List (List Char)}

/-! ## Places in a text -/

theorem length_le_of_filter_eq (hbefore : before ++ [x] <+: text) (hother : other <+: text)
    (hx : isAlphanumeric x) (h : before.filter isAlphanumeric = other.filter isAlphanumeric) :
    other.length ≤ before.length := by
  by_contra hlonger
  have hlies : before ++ [x] <+: other :=
    List.prefix_of_prefix_length_le hbefore hother (by simp; omega)
  have hlength :
      (other.filter isAlphanumeric).length + 1 ≤ (other.filter isAlphanumeric).length := by
    simpa [h, hx] using (hlies.filter isAlphanumeric).length_le
  omega

theorem eq_of_filter_eq (hbefore : before ++ [x] <+: text) (hother : other ++ [y] <+: text)
    (hx : isAlphanumeric x) (hy : isAlphanumeric y)
    (h : before.filter isAlphanumeric = other.filter isAlphanumeric) : before = other := by
  have hbeforetext := (List.prefix_append before [x]).trans hbefore
  have hothertext := (List.prefix_append other [y]).trans hother
  have hle := length_le_of_filter_eq hother hbeforetext hy h.symm
  have hge := length_le_of_filter_eq hbefore hothertext hx h
  exact (List.prefix_of_prefix_length_le hbeforetext hothertext hle).eq_of_length
    (Nat.le_antisymm hle hge)

namespace Cut

variable (h : Cut text words)
include h

theorem exists_word_from (hplace : before ++ [y] <+: text) (hy : isAlphanumeric y)
    (hstart : earlier <+: words) (hearlier : earlier.flatten = before.filter isAlphanumeric) :
    ∃ tail, earlier ++ [y :: tail] <+: words ∧ before ++ y :: tail <+: text := by
  obtain ⟨later, rfl⟩ := hstart
  obtain ⟨rest, rfl⟩ := hplace
  have hlater : later.flatten = y :: rest.filter isAlphanumeric := by
    simpa [hearlier, hy] using h.whole
  cases later with
  | nil => simp at hlater
  | cons word later =>
      obtain ⟨c, tail, rfl⟩ := List.exists_cons_of_ne_nil (h.nonempty word (by simp))
      obtain rfl : c = y := (List.cons.inj hlater).1
      have hword : earlier ++ [c :: tail] <+: earlier ++ (c :: tail) :: later := by simp
      obtain ⟨place, hlies, hfilter⟩ := h.inPlace earlier (c :: tail) hword
      have hc : place ++ [c] <+: before ++ [c] ++ rest := by
        refine List.IsPrefix.trans ?_ hlies
        simp
      obtain rfl := eq_of_filter_eq hc (List.prefix_append _ rest) hy hy (hfilter.trans hearlier)
      exact ⟨tail, hword, hlies⟩

theorem exists_word_to (hplace : before ++ [x] <+: text) (hx : isAlphanumeric x)
    (hstart : earlier <+: words)
    (hearlier : earlier.flatten = (before ++ [x]).filter isAlphanumeric) :
    ∃ others start place, earlier = others ++ [start ++ [x]] ∧ place ++ start = before ∧
      place.filter isAlphanumeric = others.flatten := by
  rcases List.eq_nil_or_concat' earlier with rfl | ⟨others, word, rfl⟩
  · simp [hx] at hearlier
  · have hmem : word ∈ words := hstart.subset (by simp)
    rcases List.eq_nil_or_concat' word with rfl | ⟨start, c, rfl⟩
    · exact absurd rfl (h.nonempty [] hmem)
    · have hchars : others.flatten ++ start ++ [c] = before.filter isAlphanumeric ++ [x] := by
        simpa [hx] using hearlier
      obtain ⟨hstartchars, rfl⟩ := List.append_singleton_inj.mp hchars
      obtain ⟨place, hlies, hfilter⟩ := h.inPlace others (start ++ [c]) hstart
      have hall := h.alphanumeric (start ++ [c]) hmem
      have hkept : (place ++ start).filter isAlphanumeric = before.filter isAlphanumeric := by
        rw [List.filter_append, hfilter,
          List.filter_eq_self.mpr fun d hd => hall d (List.mem_append_left _ hd), hstartchars]
      rw [← List.append_assoc] at hlies
      exact ⟨others, start, place, rfl, eq_of_filter_eq hlies hplace hx hx hkept, hfilter⟩

theorem exists_parts_of_adjoin {start tail : List Char}
    (hadjoin : Adjoin text words (start ++ [x]) (y :: tail)) :
    ∃ before after, text = before ++ x :: y :: after ∧ isAlphanumeric x ∧ isAlphanumeric y ∧
      Parts x y after := by
  obtain ⟨earlier, before, hwords, ⟨rest, rfl⟩, hbefore⟩ := hadjoin
  have hfirst := h.alphanumeric (start ++ [x]) (hwords.subset (by simp))
  have hsecond := h.alphanumeric (y :: tail) (hwords.subset (by simp))
  have hx : isAlphanumeric x := hfirst x (by simp)
  have hy : isAlphanumeric y := hsecond y (by simp)
  have htext : before ++ (start ++ [x]) ++ y :: tail ++ rest =
      before ++ start ++ x :: y :: (tail ++ rest) := by simp
  have hbegins : BeginsAfter words (before ++ start ++ [x]) := by
    refine ⟨earlier ++ [start ++ [x]], List.IsPrefix.trans (by simp) hwords, ?_⟩
    rw [List.append_assoc, List.filter_append, hbefore, List.filter_eq_self.mpr hfirst]
    simp
  exact ⟨before ++ start, tail ++ rest, htext, hx, hy, (h.begins _ x y _ htext hx hy).mp hbegins⟩

theorem exists_adjoin_of_parts {after : List Char} (htext : text = before ++ x :: y :: after)
    (hx : isAlphanumeric x) (hy : isAlphanumeric y) (hparts : Parts x y after) :
    ∃ start tail, Adjoin text words (start ++ [x]) (y :: tail) := by
  have hplacex : before ++ [x] <+: text := by simp [htext]
  have hplacey : before ++ [x] ++ [y] <+: text := by simp [htext]
  obtain ⟨earlier, hstart, hearlier⟩ := (h.begins before x y after htext hx hy).mpr hparts
  obtain ⟨tail, hwords, hsecond⟩ := h.exists_word_from hplacey hy hstart hearlier
  obtain ⟨others, start, place, rfl, rfl, hfilter⟩ := h.exists_word_to hplacex hx hstart hearlier
  exact ⟨start, tail, others, place, by simpa using hwords, by simpa using hsecond, hfilter⟩

theorem exists_adjoin_iff :
    (∃ first second, Adjoin text words first second ∧ x ∈ first.getLast? ∧ y ∈ second.head?) ↔
      ∃ before after, text = before ++ x :: y :: after ∧ isAlphanumeric x ∧ isAlphanumeric y ∧
        Parts x y after := by
  constructor
  · rintro ⟨first, second, hadjoin, hlast, hhead⟩
    obtain ⟨start, rfl⟩ := List.getLast?_eq_some_iff.mp hlast
    obtain ⟨tail, rfl⟩ := List.head?_eq_some_iff.mp hhead
    exact h.exists_parts_of_adjoin hadjoin
  · rintro ⟨before, after, htext, hx, hy, hparts⟩
    obtain ⟨start, tail, hadjoin⟩ := h.exists_adjoin_of_parts htext hx hy hparts
    exact ⟨start ++ [x], y :: tail, hadjoin, by simp, by simp⟩

end Cut

end Relabel.Word

namespace Relabel.Boundary

open Relabel.Unicode Relabel.Word

theorem separates_iff {boundary : Boundary} {c : Char} :
    boundary.separates c ↔ isBlank c ∨ c = '_' ∨ boundary = standard ∧ c = '-' := by
  simp [separates, or_assoc]

theorem turns_iff {x y : Char} : turns x y ↔ x.isLower ∧ (y.isUpper ∨ y.isDigit) := by
  simp [turns]

theorem exists_turns_iff (text : List Char) :
    (∃ x y, [x, y] <:+: text ∧ turns x y) ↔
      ∃ first second, Adjoin text (split text) first second ∧
        (∃ x ∈ first.getLast?, x.isLower) ∧ ∃ y ∈ second.head?, y.isUpper ∨ y.isDigit := by
  constructor
  · rintro ⟨x, y, ⟨before, after, htext⟩, hturns⟩
    obtain ⟨hx, hy⟩ := turns_iff.mp hturns
    have hplace : text = before ++ x :: y :: after := by simpa using htext.symm
    have hyclass : isAlphanumeric y :=
      hy.elim isAlphanumeric_of_isUpper isAlphanumeric_of_isDigit
    obtain ⟨first, second, hadjoin, hlast, hhead⟩ :=
      (cut_split text).exists_adjoin_iff.mpr
        ⟨before, after, hplace, isAlphanumeric_of_isLower hx, hyclass, parts_of_isLower hx hy.symm⟩
    exact ⟨first, second, hadjoin, ⟨x, hlast, hx⟩, y, hhead, hy⟩
  · rintro ⟨first, second, hadjoin, ⟨x, hlast, hx⟩, y, hhead, hy⟩
    obtain ⟨before, after, rfl, -⟩ :=
      (cut_split text).exists_adjoin_iff.mp ⟨first, second, hadjoin, hlast, hhead⟩
    exact ⟨x, y, ⟨before, after, by simp⟩, turns_iff.mpr ⟨hx, hy⟩⟩

/--
A name is divided exactly if there is a separator in it, or two of its words adjoin where a small
ASCII letter comes before an ASCII capital or digit.  So a turn from such a letter always makes two
words, and a name without separators is not divided by cuts that come after capitals and digits only.
-/
theorem divides_iff_adjoin (boundary : Boundary) (identifier : String) :
    let separated := ∃ c ∈ identifier.toList, isBlank c ∨ c = '_' ∨ boundary = standard ∧ c = '-'
    let Adjoins := Adjoin identifier.toList ((words identifier).map String.toList)
    (boundary.divides identifier ↔ separated ∨
      ∃ first second, Adjoins first second ∧
        (∃ x ∈ first.getLast?, x.isLower) ∧ ∃ y ∈ second.head?, y.isUpper ∨ y.isDigit) ∧
    ((∃ x y, [x, y] <:+: identifier.toList ∧ x.isLower ∧ (y.isUpper ∨ y.isDigit)) →
      2 ≤ (words identifier).length) ∧
    (¬ separated →
      (∀ first second, Adjoins first second → ∀ x ∈ first.getLast?, isUppercase x ∨ x.isDigit) →
      boundary.divides identifier = false) := by
  intro separated Adjoins
  have hwords : (words identifier).map String.toList = split identifier.toList := by
    simp [words]
  have hturns := exists_turns_iff identifier.toList
  rw [← hwords] at hturns
  have hdivides : boundary.divides identifier ↔ separated ∨
      ∃ first second, Adjoins first second ∧
        (∃ x ∈ first.getLast?, x.isLower) ∧ ∃ y ∈ second.head?, y.isUpper ∨ y.isDigit := by
    rw [Boundary.divides, dividesChars_iff, hturns]
    simp only [separates_iff, separated, Adjoins]
  refine ⟨hdivides, fun hturn => ?_, fun hseparated hcuts => ?_⟩
  · simp only [← turns_iff] at hturn
    obtain ⟨first, second, ⟨earlier, -, hstart, -⟩, -⟩ := hturns.mp hturn
    have hlength := hstart.length_le
    simp at hlength
    omega
  · rw [Bool.eq_false_iff, Ne, hdivides, not_or]
    refine ⟨hseparated, ?_⟩
    rintro ⟨first, second, hadjoin, ⟨x, hlast, hx⟩, -⟩
    have hcut := hcuts first second hadjoin x hlast
    simp [not_isUppercase_of_isLower hx, isUpper_isDigit_of_isLower hx] at hcut

theorem acronym_cut_leaves_undivided :
    (∃ x y, [x, y] <:+: "HTTPRoute2".toList ∧ x.isLower ∧ (y.isUpper ∨ y.isDigit)) ∧
    2 ≤ (words "HTTPRoute2").length ∧
    (¬ ∃ c ∈ "HTTPRoute".toList, isBlank c ∨ c = '_' ∨ standard = standard ∧ c = '-') ∧
    (∀ first second,
      Adjoin "HTTPRoute".toList ((words "HTTPRoute").map String.toList) first second →
        ∀ x ∈ first.getLast?, isUppercase x ∨ x.isDigit) ∧
    standard.divides "HTTPRoute" = false := by
  have hturn :
      ∃ x y, [x, y] <:+: "HTTPRoute2".toList ∧ x.isLower ∧ (y.isUpper ∨ y.isDigit) :=
    ⟨'e', '2', ⟨"HTTPRout".toList, [], by decide⟩, by decide, by decide⟩
  have hseparated :
      ¬ ∃ c ∈ "HTTPRoute".toList, isBlank c ∨ c = '_' ∨ standard = standard ∧ c = '-' := by
    simp [isBlank, Ranges.contains, blankRanges]
  have hwords : (words "HTTPRoute").map String.toList = ["HTTP".toList, "Route".toList] := by decide
  have hcuts : ∀ first second,
      Adjoin "HTTPRoute".toList ((words "HTTPRoute").map String.toList) first second →
        ∀ x ∈ first.getLast?, isUppercase x ∨ x.isDigit := by
    rw [hwords]
    rintro first second ⟨earlier, before, hstart, -⟩
    obtain rfl : earlier = [] := List.eq_nil_of_length_eq_zero (by simpa using hstart.length_le)
    obtain ⟨rfl, -⟩ := List.cons_prefix_cons.mp hstart
    intro x hlast
    obtain rfl : 'P' = x := by simpa using hlast
    exact .inl (by decide)
  obtain ⟨-, htwo, -⟩ := divides_iff_adjoin standard "HTTPRoute2"
  obtain ⟨-, -, hundivided⟩ := divides_iff_adjoin standard "HTTPRoute"
  exact ⟨hturn, htwo hturn, hseparated, hcuts, hundivided hseparated hcuts⟩

end Relabel.Boundary

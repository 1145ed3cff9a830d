import Relabel.Unicode.Alphanumeric
import Relabel.Unicode.WordBreak
import Relabel.Word.Split

/-!
# Segments and pieces of spaced words

A convention is applied to the words of an identifier written with single spaces between
them. That text is first segmented by the default word segmentation, so that each ideograph
is a word of its own and a combining character joins what stands before it, even a space.
Each segment that holds an alphanumeric character is then cut into pieces where its letters
turn from lowercase to uppercase. The pieces are what a convention writes.
-/

namespace Relabel.Word

open Relabel.Unicode

/-- Whether a character of class `next` stays in a segment whose last character that does not
combine is of class `base`. -/
def joins (base next : WordBreak) : Bool :=
  match base, next with
  | _, .extend => true
  | .letter, .letter | .letter, .numeric | .numeric, .letter | .numeric, .numeric => true
  | .katakana, .katakana => true
  | _, _ => false

/-- Continues a segment whose last character that does not combine is of class `base`. The
first item is the rest of that segment. -/
def segmentsAfter (base : WordBreak) : List Char → List (List Char)
  | [] => [[]]
  | c :: rest =>
      if joins base (wordBreak c) then
        glue c (segmentsAfter (if wordBreak c = .extend then base else wordBreak c) rest)
      else [] :: glue c (segmentsAfter (wordBreak c) rest)

def segments : List Char → List (List Char)
  | [] => []
  | c :: rest => glue c (segmentsAfter (wordBreak c) rest)

inductive Mode where
  | fresh
  | lower
  | upper
  deriving DecidableEq, Repr

/-- The mode after `c`; a character without case leaves it as it is. -/
def Mode.next (mode : Mode) (c : Char) : Mode :=
  if isLowercase c then .lower else if isUppercase c then .upper else mode

/-- Cuts a segment into pieces: after a character in lowercase mode that an uppercase one
follows, and before an uppercase character in uppercase mode that a lowercase one follows.
After either cut the mode is fresh. The first piece continues the one that `mode` is about. -/
def piecesFrom (mode : Mode) : List Char → List (List Char)
  | [] => []
  | [c] => [[c]]
  | c :: d :: rest =>
      if mode.next c = .lower && isUppercase d then [c] :: piecesFrom .fresh (d :: rest)
      else if mode = .upper && isUppercase c && isLowercase d then
        [] :: glue c (piecesFrom .fresh (d :: rest))
      else glue c (piecesFrom (mode.next c) (d :: rest))

def pieces (identifier : List Char) : List (List Char) :=
  let spaced := [' '].intercalate (split identifier)
  ((segments spaced).filter (·.any isAlphanumeric)).flatMap (piecesFrom .fresh)

end Relabel.Word

import Relabel.Unicode.Alphanumeric
import Relabel.Unicode.LetterCase

/-!
# The words of an identifier

An identifier is cut into words by its characters alone. Whatever is not alphanumeric stands
between words and belongs to none. Inside a run of alphanumeric characters a word starts at an
uppercase letter after a lowercase one, on either side of a run of ASCII digits, and at the
last capital of an acronym that a lowercase letter follows: `userName2` is `user`, `Name`,
`2`, and `HTTPServer` is `HTTP`, `Server`.
-/

namespace Relabel.Word

open Relabel.Unicode

def glue (c : Char) : List (List Char) → List (List Char)
  | [] => [[c]]
  | piece :: pieces => (c :: piece) :: pieces

@[simp] theorem flatten_glue (c : Char) (pieces : List (List Char)) :
    (glue c pieces).flatten = c :: pieces.flatten := by
  cases pieces <;> rfl

/-- Whether `y` starts a word after the alphanumeric character `x`, where `next` is the
character that follows `y` in the same run, if any. -/
def startsWord (x y : Char) (next : Option Char) : Bool :=
  (isLowercase x && isUppercase y) ||
  (x.isDigit != y.isDigit) ||
  (isUppercase x && isUppercase y && next.any isLowercase)

def split : List Char → List (List Char)
  | [] => []
  | [x] => if isAlphanumeric x then [[x]] else []
  | x :: y :: rest =>
      if !isAlphanumeric x then split (y :: rest)
      else if isAlphanumeric y && !startsWord x y (rest.head?.filter isAlphanumeric) then
        glue x (split (y :: rest))
      else [x] :: split (y :: rest)

end Relabel.Word

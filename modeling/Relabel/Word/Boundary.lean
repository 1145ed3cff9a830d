import Relabel.Unicode.Blank

/-!
# Word boundaries

An identifier without a boundary is a single token that already has its case. The camel and
snake conventions leave such tokens alone, which keeps acronyms such as `ID` and `URL` intact.
-/

namespace Relabel

open Relabel.Unicode

inductive Boundary where
  /-- A hyphen separates words. -/
  | standard
  /-- A hyphen is part of a word. -/
  | ignoreHyphen
  deriving DecidableEq, Repr

namespace Boundary

def separates (boundary : Boundary) (c : Char) : Bool :=
  isBlank c || c == '_' || (boundary == standard && c == '-')

def turns (x y : Char) : Bool :=
  x.isLower && (y.isUpper || y.isDigit)

/-- Whether an identifier has a separator, or a small letter right before a capital or a
digit. -/
def dividesChars (boundary : Boundary) : List Char → Bool
  | [] => false
  | [x] => boundary.separates x
  | x :: y :: rest =>
      boundary.separates x || turns x y || boundary.dividesChars (y :: rest)

end Boundary

end Relabel

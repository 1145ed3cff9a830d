import Relabel.Unicode.Blank
import Relabel.Word.Boundary
import Relabel.Word.Capital
import Relabel.Word.Segment

/-!
# Naming conventions

The three conventions and what each makes of an identifier. Pascal case is applied to every
identifier. Camel and snake case are applied only to identifiers of several words, and leave
the others as they are.
-/

namespace Relabel

open Relabel.Unicode

inductive Convention where
  | camel
  | snake
  | pascal
  deriving DecidableEq, Repr

def Word.joinPascal (pieces : List (List Char)) : List Char :=
  pieces.flatMap capitalize

def Word.joinCamel : List (List Char) → List Char
  | [] => []
  | piece :: pieces => lowercase piece ++ joinPascal pieces

def Word.joinSnake (pieces : List (List Char)) : List Char :=
  ['_'].intercalate (pieces.map lowercase)

namespace Convention

/-- What the convention makes of an identifier, whether or not it has several words. -/
def write (convention : Convention) (identifier : List Char) : List Char :=
  match convention with
  | camel => Word.joinCamel (Word.pieces identifier)
  | snake => Word.joinSnake (Word.pieces identifier)
  | pascal => Word.joinPascal (Word.pieces identifier)

def appliesTo (convention : Convention) (boundary : Boundary) (identifier : List Char) : Bool :=
  convention == pascal || boundary.dividesChars identifier

def applyChars (convention : Convention) (boundary : Boundary) (identifier : List Char) :
    List Char :=
  if convention.appliesTo boundary identifier then convention.write identifier else identifier

def apply (convention : Convention) (boundary : Boundary) (identifier : String) : String :=
  String.ofList (convention.applyChars boundary identifier.toList)

end Convention

/-- Camel case for an identifier that may start with a capital: such an identifier is written
in Pascal case, any other in camel case, whether or not it has several words. -/
def camelKeepingCapital (identifier : String) : String :=
  let convention := if identifier.toList.head?.any isUppercase then .pascal else .camel
  String.ofList (Convention.write convention identifier.toList)

/-- A name that starts with an ASCII digit gets a `_` in front. -/
def escapeLeadingDigit (name : String) : String :=
  if name.toList.head?.any Char.isDigit then String.ofList ('_' :: name.toList) else name

def words (identifier : String) : List String :=
  (Word.split identifier.toList).map String.ofList

def Boundary.divides (boundary : Boundary) (identifier : String) : Bool :=
  boundary.dividesChars identifier.toList

end Relabel

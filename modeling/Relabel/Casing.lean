import Relabel.Convention

/-!
# Requested name cases

A user asks for one of the conventions or for none, which leaves every name as it is.
-/

namespace Relabel

inductive Casing where
  | keep
  | use (convention : Convention)
  deriving DecidableEq, Repr

def Convention.text : Convention → String
  | camel => "camel"
  | snake => "snake"
  | pascal => "pascal"

namespace Casing

def byDefault : Casing := keep

def convention? : Casing → Option Convention
  | keep => none
  | use convention => some convention

def text : Casing → String
  | keep => "none"
  | use convention => convention.text

def all : List Casing :=
  [keep, use .camel, use .snake, use .pascal]

structure ParseError where
  given : String
  deriving DecidableEq, Repr

def ParseError.message (error : ParseError) : String :=
  "unknown name case '" ++ error.given ++ "', expected one of: none, camel, snake, pascal"

/-- Reads a name case. White space around it and the case of its ASCII letters do not count. -/
def parse (given : String) : Except ParseError Casing :=
  let name := String.ofList ((Unicode.trimBlank given.toList).map Char.toLower)
  match all.find? (·.text == name) with
  | some casing => .ok casing
  | none => .error ⟨given⟩

end Casing

end Relabel

import Relabel.Convention

/-!
# Rules of a renaming

A renaming is given by two functions on names, one for models and one for the members of
enumerations. A convention together with its options is such a pair.
-/

namespace Relabel

structure Rules where
  model : String → String
  member : String → String

namespace Rules

def identity : Rules := ⟨id, id⟩

def prepend (model member : String) : Rules :=
  ⟨(model ++ ·), (member ++ ·)⟩

end Rules

structure Options where
  /-- What separates words when it is decided whether a name is renamed. -/
  boundary : Boundary := .standard
  /-- Whether members of enumerations that would start with a digit get a `_` in front. -/
  escapeDigits : Bool := true
  deriving DecidableEq, Repr

def Convention.rules (convention : Convention) (options : Options) : Rules where
  model name := convention.apply options.boundary name
  member name :=
    let name := convention.apply options.boundary name
    if options.escapeDigits then escapeLeadingDigit name else name

end Relabel

/-!
# Finite binary floating-point numbers of 64 bits

A number is its sign and its magnitude field, the exponent and fraction bits read as one
natural number. Magnitudes are ordered as these fields are. Every value is a whole multiple
of the smallest positive number, the unit, of which one has `2 ^ 1074`, so arithmetic is exact on natural
numbers up to one final rounding to the nearest number, ties to an even field.
-/

namespace Relabel

def infiniteField : Nat := 0x7FF0000000000000

structure Binary64 where
  negative : Bool
  field : Nat
  field_lt : field < infiniteField
  deriving DecidableEq, Repr

namespace Binary64

def zero (negative : Bool) : Binary64 := ⟨negative, 0, by decide⟩

/-- The quotient rounded to the nearest natural number, a tie to the even one. -/
def divideToEven (numerator denominator : Nat) : Nat :=
  let quotient := numerator / denominator
  let double := 2 * (numerator % denominator)
  if double > denominator || (double == denominator && quotient % 2 == 1) then quotient + 1
  else quotient

def unitsPerOne : Nat := Nat.pow 2 1074

def fractionBits : Nat := 52

def leadingBit : Nat := Nat.pow 2 fractionBits

def nearestField (numerator denominator : Nat) : Nat :=
  let scale := (numerator / denominator).log2 - fractionBits
  scale * leadingBit + divideToEven numerator (denominator * Nat.pow 2 scale)

/-- The number nearest to a quotient of units; none if that is beyond the finite ones. -/
def ofUnits (negative : Bool) (numerator denominator : Nat) : Option Binary64 :=
  let field := nearestField numerator denominator
  if h : field < infiniteField then some ⟨negative, field, h⟩ else none

def ofRatio (negative : Bool) (numerator denominator : Nat) : Option Binary64 :=
  ofUnits negative (numerator * unitsPerOne) denominator

def significand (x : Binary64) : Nat :=
  if x.field < leadingBit then x.field else leadingBit + x.field % leadingBit

def scale (x : Binary64) : Nat :=
  x.field / leadingBit - 1

def units (x : Binary64) : Nat :=
  x.significand * Nat.pow 2 x.scale

def mul (x y : Binary64) : Option Binary64 :=
  ofUnits (x.negative != y.negative) (x.units * y.units) unitsPerOne

def div (x y : Binary64) : Option Binary64 :=
  if y.field = 0 then none
  else ofUnits (x.negative != y.negative) (x.units * unitsPerOne) y.units

def sameNumber (x y : Binary64) : Bool :=
  x.field == y.field && (x.field == 0 || x.negative == y.negative)

end Binary64

end Relabel

import Relabel.Number.Binary64

/-!
# Shortest decimal text

A finite number is written with the fewest digits that read back as it. The digits are found
on decimal grids from coarse to fine: the first grid with a point that rounds to the number
gives them, and of two such points the nearer, a tie going to the even one.
-/

namespace Relabel

/-- A positive decimal number `digits * 10 ^ exponent`. -/
structure Decimal where
  digits : Nat
  exponent : Int
  deriving DecidableEq, Repr

namespace Binary64

def scaleUp (n : Nat) (exponent : Int) : Nat :=
  n * Nat.pow 10 exponent.toNat

/-- Whether the decimal rounds to `x`, for positive `x`. Both are compared in quarters of the
unit with the ends of the interval around `x`, which belong to it if the significand is even.
Below a power of two the interval is half as wide. -/
def roundsTo (x : Binary64) (d : Decimal) : Bool :=
  let quarter := Nat.pow 2 x.scale
  let middle := 4 * x.significand * quarter
  let low := if x.significand = leadingBit && x.scale > 0 then middle - quarter
    else middle - 2 * quarter
  let high := middle + 2 * quarter
  let point := scaleUp (d.digits * (4 * unitsPerOne)) d.exponent
  let low := scaleUp low (-d.exponent)
  let high := scaleUp high (-d.exponent)
  if x.significand % 2 = 0 then low ≤ point && point ≤ high else low < point && point < high

def onGrid? (x : Binary64) (exponent : Int) : Option Decimal :=
  let numerator := scaleUp x.units (-exponent)
  let denominator := scaleUp unitsPerOne exponent
  let below : Decimal := ⟨numerator / denominator, exponent⟩
  let above : Decimal := ⟨numerator / denominator + 1, exponent⟩
  let nearest : Decimal := ⟨divideToEven numerator denominator, exponent⟩
  if x.roundsTo nearest then some nearest
  else if x.roundsTo below then some below
  else if x.roundsTo above then some above
  else none

def firstGrid? (x : Binary64) : Nat → Int → Option Decimal
  | 0, _ => none
  | count + 1, exponent => (x.onGrid? exponent).or (x.firstGrid? count (exponent - 1))

/-- The shortest decimal that rounds to `x`, for positive `x`. Grids coarser than the largest
number or finer than a thousandth of the unit are never needed. -/
def shortest (x : Binary64) : Decimal :=
  (x.firstGrid? 640 310).getD ⟨0, 0⟩

end Binary64

structure DecimalLayout where
  wholePlaces : Nat
  leadingZeros : Nat
  deriving DecidableEq, Repr

namespace Decimal

/-- The text of a positive decimal: positional within the limits of the layout, with at least
one digit on either side of the point; otherwise one digit, the others after a point, and a
signed exponent. -/
def text (layout : DecimalLayout) (d : Decimal) : String :=
  let digits := (toString d.digits).toList
  let point : Int := digits.length + d.exponent
  if 0 ≤ d.exponent && point ≤ layout.wholePlaces then
    String.ofList (digits ++ List.replicate d.exponent.toNat '0' ++ ['.', '0'])
  else if 0 < point && point ≤ layout.wholePlaces then
    String.ofList (digits.take point.toNat ++ '.' :: digits.drop point.toNat)
  else if point ≤ 0 && -point ≤ layout.leadingZeros then
    String.ofList ('0' :: '.' :: List.replicate (-point).toNat '0' ++ digits)
  else
    let fraction := if digits.length > 1 then '.' :: digits.drop 1 else []
    let sign := if point - 1 < 0 then "e-" else "e+"
    String.ofList (digits.take 1 ++ fraction) ++ sign ++ toString (point - 1).natAbs

end Decimal

def Binary64.text (layout : DecimalLayout) (x : Binary64) : String :=
  let sign := if x.negative then "-" else ""
  if x.field = 0 then sign ++ "0.0" else sign ++ x.shortest.text layout

end Relabel

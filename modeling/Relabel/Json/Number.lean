import Relabel.Number.Shortest

/-!
# Numbers of a document

A number is a whole number that fits a word of 64 bits, with or without a sign, or else a
floating-point number. The literal decides: `1` is whole and `1.0`, `1e0` and `-0` are not,
and a whole literal too large for a word is a floating-point number.
-/

namespace Relabel.Json

abbrev FitsWord (n : Int) : Prop :=
  -9223372036854775808 ≤ n ∧ n < 18446744073709551616

inductive Number where
  | whole (value : Int) (fits : FitsWord value)
  | real (value : Binary64)
  deriving DecidableEq, Repr

namespace Number

def ofInt? (n : Int) : Option Number :=
  if h : FitsWord n then some (.whole n h) else none

def same : Number → Number → Bool
  | .whole m _, .whole n _ => m == n
  | .real x, .real y => x.sameNumber y
  | _, _ => false

instance : BEq Number := ⟨same⟩

def layout : DecimalLayout := ⟨16, 4⟩

def text : Number → String
  | .whole n _ => toString n
  | .real x => x.text layout

end Number

structure Literal where
  negative : Bool
  whole : List Nat
  fraction : Option (List Nat)
  exponent : Option Int
  deriving DecidableEq, Repr

namespace Literal

/-- A significand is read as long as it fits an unsigned word. -/
def maxSignificand : Nat := 0xFFFFFFFFFFFFFFFF

/-- Reads digits into a significand. From the first digit on that does not fit, the rest is
left out; the second result counts it. -/
def readWhole (significand : Nat) : List Nat → Nat × Nat
  | [] => (significand, 0)
  | digit :: rest =>
      let next := significand * 10 + digit
      if next > maxSignificand then (significand, rest.length + 1) else readWhole next rest

/-- Reads digits after the point into a significand as long as they fit; the second result
counts those that do. -/
def readFraction (significand : Nat) : List Nat → Nat × Nat
  | [] => (significand, 0)
  | digit :: rest =>
      let next := significand * 10 + digit
      if next > maxSignificand then (significand, 0)
      else
        let (result, count) := readFraction next rest
        (result, count + 1)

def powerOfTen (exponent : Nat) : Option Binary64 :=
  Binary64.ofRatio false (Nat.pow 10 exponent) 1

def maxPower : Nat := 308

/-- `significand * 10 ^ exponent`, rounded at each step: the significand first, then its
product with or quotient by a rounded power of ten, in two steps for the smallest results.
There is none if it is not finite. -/
def scaled (negative : Bool) (significand : Nat) (exponent : Int) : Option Binary64 := do
  let x ← Binary64.ofRatio negative significand 1
  if 0 ≤ exponent then
    if exponent ≤ maxPower then x.mul (← powerOfTen exponent.toNat)
    else if significand = 0 then some x else none
  else if -exponent ≤ maxPower then x.div (← powerOfTen (-exponent).toNat)
  else if -exponent ≤ 2 * maxPower then
    let y ← x.div (← powerOfTen maxPower)
    y.div (← powerOfTen ((-exponent).toNat - maxPower))
  else some (Binary64.zero negative)

def value (literal : Literal) : Option Number :=
  let (significand, dropped) := readWhole 0 literal.whole
  let signed : Int := if literal.negative then -significand else significand
  match literal.fraction, literal.exponent, dropped with
  | none, none, 0 =>
      if literal.negative && significand = 0 then some (.real (Binary64.zero true))
      else (Number.ofInt? signed).or
        ((Binary64.ofRatio literal.negative significand 1).map .real)
  | fraction, exponent, dropped =>
      let (significand, kept) := readFraction significand (fraction.getD [])
      (scaled literal.negative significand (dropped - kept + exponent.getD 0)).map .real

end Literal

end Relabel.Json

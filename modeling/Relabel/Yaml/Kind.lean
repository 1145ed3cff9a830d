import Relabel.Json.Token
import Relabel.Yaml.Node

/-!
# What a YAML scalar stands for

A reader that asks for no particular kind of value takes a plain scalar for null, a truth
value, a number or a text by the way it is written, and any other scalar for a text, unless a
tag names its kind.

A whole number has a sign and then digits of base ten without leading zeros, or digits of base
sixteen, eight or two after `0x`, `0o` or `0b`. In another base than ten a number is text if it
needs more than 64 bits. In base ten it then is no number that a document can hold, and from
128 bits on it counts as a decimal fraction.
-/

namespace Relabel.Yaml

inductive Kind where
  | null
  | bool (value : Bool)
  | number (value : Json.Number)
  | notFinite
  | tooWide
  | text (value : String)
  deriving DecidableEq, Repr

def wholeOfDigits? (base : Nat) (digits : List Char) : Option Nat := do
  if digits.isEmpty then none
  let values ← digits.mapM fun c => do
    let value ← (if c.isAlpha then some (c.toLower.toNat - 87) else
      if c.isDigit then some (c.toNat - 48) else none)
    if value < base then some value else none
  return values.foldl (fun n value => base * n + value) 0

def announcedBase? : List Char → Option (Nat × List Char)
  | '0' :: 'x' :: digits => some (16, digits)
  | '0' :: 'o' :: digits => some (8, digits)
  | '0' :: 'b' :: digits => some (2, digits)
  | _ => none

def withoutPlus : List Char → List Char
  | '+' :: rest => rest
  | text => text

/-- A whole number in an announced base. Without a minus sign in front of the base, the digits
may have a plus sign of their own. -/
def inAnnouncedBase? : List Char → Option Json.Number
  | '-' :: rest => do
      let (base, digits) ← announcedBase? rest
      Json.Number.ofInt? (-(← wholeOfDigits? base digits))
  | text => do
      let (base, digits) ← announcedBase? (withoutPlus text)
      Json.Number.ofInt? (← wholeOfDigits? base (withoutPlus digits))

def withoutSign : List Char → List Char
  | '-' :: rest | '+' :: rest => rest
  | text => text

def hasLeadingZero (text : List Char) : Bool :=
  match withoutSign text with
  | '0' :: c :: rest => (c :: rest).all Char.isDigit
  | _ => false

def decimal? (text : List Char) : Option Int := do
  let magnitude ← wholeOfDigits? 10 (withoutSign text)
  return if text.head? = some '-' then -magnitude else magnitude

/-! ## Decimal fractions -/

/-- The number of digits off a finite number or zero from which on a number is not looked at. -/
def farDigits : Nat := 400

def nearestDecimal (negative : Bool) (digits : Nat) (exponent : Int) : Option Binary64 :=
  let size : Int := (toString digits).length + exponent
  if digits = 0 || size < -farDigits then some (Binary64.zero negative)
  else if size > farDigits then none
  else Binary64.ofRatio negative (digits * Nat.pow 10 exponent.toNat)
    (Nat.pow 10 (-exponent).toNat)

def exponent? : List Char → Option Int
  | [] => some 0
  | c :: rest =>
      if c = 'e' || c = 'E' then
        match rest with
        | '-' :: digits => (wholeOfDigits? 10 digits).map fun n => -(n : Int)
        | '+' :: digits => (wholeOfDigits? 10 digits).map fun n => (n : Int)
        | digits => (wholeOfDigits? 10 digits).map fun n => (n : Int)
      else none

/-- A decimal fraction: digits with a point among or beside them, and an exponent. The outer
result tells whether the text is one, the inner one whether it is finite. -/
def fraction? (text : List Char) : Option (Option Binary64) := do
  let digits := withoutSign text
  let (whole, rest) := digits.span Char.isDigit
  let (part, rest) := match rest with
    | '.' :: rest => rest.span Char.isDigit
    | rest => ([], rest)
  let significand ← wholeOfDigits? 10 (whole ++ part)
  let exponent ← exponent? rest
  return nearestDecimal (text.head? == some '-') significand (exponent - part.length)

namespace Kind

def fitsWide (n : Int) : Bool :=
  -Int.pow 2 127 ≤ n && n < Int.pow 2 128

def ofNumber (text : String) : Kind :=
  let chars := text.toList
  match inAnnouncedBase? chars with
  | some n => number n
  | none =>
      if hasLeadingZero chars then .text text
      else match decimal? chars with
        | some n =>
            if fitsWide n then ((Json.Number.ofInt? n).map number).getD tooWide
            else ofFraction chars
        | none => ofFraction chars
where
  ofFraction (chars : List Char) : Kind :=
    let unsigned := String.ofList (chars.dropWhile (· == '+'))
    if [".inf", ".Inf", ".INF"].contains unsigned ||
        ["-.inf", "-.Inf", "-.INF", ".nan", ".NaN", ".NAN"].contains text then notFinite
    else match fraction? chars with
      | some (some x) => number (.real x)
      | _ => .text text

def ofPlain (text : String) : Kind :=
  if text = "~" || text = "null" then null
  else if text = "true" then bool true
  else if text = "false" then bool false
  else ofNumber text

def isNotFinite (text : List Char) : Bool :=
  ["inf", "infinity", "nan"].contains (String.ofList ((withoutSign text).map Char.toLower))

def ofNamed (name text : String) : Option Kind :=
  let chars := text.toList
  match name with
  | "bool" =>
      if text = "true" then some (bool true) else if text = "false" then some (bool false) else none
  | "int" => do
      let value ← decimal? chars
      if value < 0x8000000000000000 then (Json.Number.ofInt? value).map number else none
  | "float" =>
      if isNotFinite chars then some notFinite
      else (fraction? chars).map fun value => value.elim notFinite fun x => number (.real x)
  | "null" => if text = "~" || text = "null" then some null else none
  | _ => some (.text text)

def ofScalar (plain : Bool) (tag? : Option Tag) (text : String) : Option Kind :=
  match tag? with
  | some tag => if tag.handle = "!!" then ofNamed tag.suffix text else some (.text text)
  | none => some (if plain then ofPlain text else .text text)

end Kind

end Relabel.Yaml

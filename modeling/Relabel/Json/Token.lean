import Relabel.Json.Fault

/-!
# Tokens of a text

A text is cut into tokens without regard to where they stand. A token that breaks the rules
of notation is the last one: no reader looks past it. Two faults do not end the tokens, since
a reader that skips a value does not meet them: a string with half a surrogate pair, and a
number that is too large.
-/

namespace Relabel.Json

inductive Token where
  | openArray
  | closeArray
  | openObject
  | closeObject
  | comma
  | colon
  | null
  | bool (value : Bool)
  | number (value : Except SyntaxFault Number)
  | text (content : Except SyntaxFault String)
  | badWord (cause : SyntaxFault)
  | badNumber (cause : SyntaxFault)
  /-- The start of a string that ends wrongly: for one who reads it, for one who skips it. -/
  | badText (read skipped : SyntaxFault)
  | stray (c : Char)
  deriving Repr

/-! ## Strings -/

inductive TextUnit where
  | char (c : Char)
  | code (n : Nat)
  deriving DecidableEq, Repr

inductive TextEnd where
  | closed
  | endOfText
  | controlCharacter
  | unknownEscape
  | badCode
  deriving DecidableEq, Repr

def TextEnd.fault? : TextEnd → Option SyntaxFault
  | closed => none
  | endOfText => some .endInString
  | controlCharacter => some .controlCharacter
  | unknownEscape | badCode => some .unknownEscape

def unescape? : Char → Option Char
  | '"' => some '"'
  | '\\' => some '\\'
  | '/' => some '/'
  | 'b' => some '\x08'
  | 'f' => some '\x0c'
  | 'n' => some '\n'
  | 'r' => some '\r'
  | 't' => some '\t'
  | _ => none

def hexValue? (c : Char) : Option Nat :=
  if c.isDigit then some (c.toNat - 48)
  else if 'a' ≤ c && c ≤ 'f' then some (c.toNat - 87)
  else if 'A' ≤ c && c ≤ 'F' then some (c.toNat - 55)
  else none

def hexCode? (a b c d : Char) : Option Nat := do
  return (((← hexValue? a) * 16 + (← hexValue? b)) * 16 + (← hexValue? c)) * 16 + (← hexValue? d)

/-- The units of a string from after its opening quote, how they end, and what follows. A code
is cut off by the end of the text if fewer than four bytes are left. -/
def scanUnits : List Char → List TextUnit × TextEnd × List Char
  | [] => ([], .endOfText, [])
  | '"' :: rest => ([], .closed, rest)
  | ['\\'] => ([], .endOfText, [])
  | '\\' :: 'u' :: a :: b :: c :: d :: rest =>
      match hexCode? a b c d with
      | some n =>
          let (units, ending, rest) := scanUnits rest
          (.code n :: units, ending, rest)
      | none => ([], .badCode, [])
  | '\\' :: 'u' :: rest =>
      ([], if (String.ofList rest).utf8ByteSize < 4 then .endOfText else .badCode, [])
  | '\\' :: e :: rest =>
      match unescape? e with
      | some c =>
          let (units, ending, rest) := scanUnits rest
          (.char c :: units, ending, rest)
      | none => ([], .unknownEscape, [])
  | c :: rest =>
      if c.toNat < 0x20 then ([], .controlCharacter, [])
      else
        let (units, ending, rest) := scanUnits rest
        (.char c :: units, ending, rest)

def isFirstHalf (n : Nat) : Bool := 0xD800 ≤ n && n ≤ 0xDBFF

def isSecondHalf (n : Nat) : Bool := 0xDC00 ≤ n && n ≤ 0xDFFF

/-- The characters of the units of a string. Two codes that are the halves of a surrogate pair
are one character. -/
def textOfUnits (ending : TextEnd) : List TextUnit → Except SyntaxFault (List Char)
  | [] => match ending.fault? with
      | some fault => .error fault
      | none => .ok []
  | .char c :: rest => (c :: ·) <$> textOfUnits ending rest
  | .code n :: rest =>
      if isSecondHalf n then .error .strayHalf
      else if isFirstHalf n then
        match rest with
        | .code m :: rest =>
            if isSecondHalf m then
              (Char.ofNat (0x10000 + (n - 0xD800) * 0x400 + (m - 0xDC00)) :: ·) <$>
                textOfUnits ending rest
            else .error .strayHalf
        | .char _ :: _ => .error .missingHalf
        | [] => match ending with
            | .endOfText => .error .endInString
            | .badCode => .error .unknownEscape
            | _ => .error .missingHalf
      else (Char.ofNat n :: ·) <$> textOfUnits ending rest

def scanText (rest : List Char) : Token × List Char :=
  let (units, ending, rest) := scanUnits rest
  let content := textOfUnits ending units
  match ending.fault? with
  | none => (.text (String.ofList <$> content), rest)
  | some skipped =>
      match content with
      | .error read => (.badText read skipped, [])
      | .ok _ => (.badText skipped skipped, [])

/-! ## Words -/

def dropWord : List Char → List Char → Except SyntaxFault (List Char)
  | [], rest => .ok rest
  | _ :: _, [] => .error .endInValue
  | c :: word, d :: rest => if c = d then dropWord word rest else .error .unknownWord

def scanWord (token : Token) (letters : String) (rest : List Char) : Token × List Char :=
  match dropWord letters.toList rest with
  | .ok rest => (token, rest)
  | .error fault => (.badWord fault, [])

/-! ## Numbers -/

def digitValue (c : Char) : Nat := c.toNat - 48

def scanDigits (rest : List Char) : Except SyntaxFault (List Nat × List Char) :=
  match rest.span Char.isDigit with
  | ([], []) => .error .endInValue
  | ([], _) => .error .badNumber
  | (digits, rest) => .ok (digits.map digitValue, rest)

def scanWhole (rest : List Char) : Except SyntaxFault (List Nat × List Char) := do
  let (digits, rest) ← scanDigits rest
  match digits with
  | 0 :: _ :: _ => throw .badNumber
  | digits => return (digits, rest)

def scanFraction : List Char → Except SyntaxFault (Option (List Nat) × List Char)
  | '.' :: rest => do
      let (digits, rest) ← scanDigits rest
      return (some digits, rest)
  | rest => .ok (none, rest)

def scanPower (sign : Int) (rest : List Char) : Except SyntaxFault (Option Int × List Char) := do
  let (digits, rest) ← scanDigits rest
  return (some (sign * (digits.foldl (fun n digit => 10 * n + digit) 0 : Nat)), rest)

def scanExponent : List Char → Except SyntaxFault (Option Int × List Char)
  | [] => .ok (none, [])
  | c :: rest =>
      if c = 'e' || c = 'E' then
        match rest with
        | '+' :: rest => scanPower 1 rest
        | '-' :: rest => scanPower (-1) rest
        | rest => scanPower 1 rest
      else .ok (none, c :: rest)

def scanLiteral (rest : List Char) : Except SyntaxFault (Literal × List Char) := do
  let (negative, rest) := match rest with
    | '-' :: rest => (true, rest)
    | rest => (false, rest)
  let (whole, rest) ← scanWhole rest
  let (fraction, rest) ← scanFraction rest
  let (exponent, rest) ← scanExponent rest
  return (⟨negative, whole, fraction, exponent⟩, rest)

def scanNumber (rest : List Char) : Token × List Char :=
  match scanLiteral rest with
  | .error fault => (.badNumber fault, [])
  | .ok (literal, rest) =>
      match literal.value with
      | some n => (.number (.ok n), rest)
      | none => (.number (.error .hugeNumber), rest)

/-! ## All tokens -/

def isSpace (c : Char) : Bool :=
  c == ' ' || c == '\n' || c == '\t' || c == '\r'

def scanToken (c : Char) (rest : List Char) : Token × List Char :=
  match c with
  | '[' => (.openArray, rest)
  | ']' => (.closeArray, rest)
  | '\x7b' => (.openObject, rest)
  | '\x7d' => (.closeObject, rest)
  | ',' => (.comma, rest)
  | ':' => (.colon, rest)
  | '"' => scanText rest
  | 'n' => scanWord .null "ull" rest
  | 't' => scanWord (.bool true) "rue" rest
  | 'f' => scanWord (.bool false) "alse" rest
  | c => if c = '-' || c.isDigit then scanNumber (c :: rest) else (.stray c, [])

def scanTokens : Nat → List Char → List Token
  | 0, _ => []
  | _ + 1, [] => []
  | count + 1, c :: rest =>
      if isSpace c then scanTokens count rest
      else
        let (token, rest) := scanToken c rest
        token :: scanTokens count rest

def tokens (text : List Char) : List Token :=
  scanTokens text.length text

end Relabel.Json

import Relabel.Json.Token
import Relabel.Json.Value

/-!
# The readable part of a text

A reader asks a text for one thing after another, and the first thing that is wrong is what it
reports. A fault in the notation far behind does not hide a wrong value before it. So a text is
turned into a tree that holds all that can be read, and at the place where the notation
breaks, what each kind of reader reports there.

There are three kinds of reader: one that reads a value, one that skips it, and one that reads
a tag. A document in memory is a tree without faults.
-/

namespace Relabel.Json

inductive Break where
  | missing (cause : SyntaxFault)
  | word (cause : SyntaxFault)
  | number (cause : SyntaxFault)
  | text (read skipped : SyntaxFault)
  deriving DecidableEq, Repr

def Break.whenRead : Break → SyntaxFault
  | missing cause | word cause | number cause => cause
  | text read _ => read

def Break.whenSkipped : Break → SyntaxFault
  | missing cause | word cause => cause
  | number _ => .badNumber
  | text _ skipped => skipped

def Break.asTag : Break → SyntaxFault
  | missing cause => cause
  | word _ | number _ => .noValue
  | text read _ => read

inductive ArrayEnd where
  | closed
  | endOfText
  | noComma
  | commaClosed
  | commaEndOfText
  deriving DecidableEq, Repr

def ArrayEnd.whenRead? : ArrayEnd → Option SyntaxFault
  | closed => none
  | endOfText => some .endInArray
  | noComma => some .noCommaInArray
  | commaClosed => some .commaBeforeEnd
  | commaEndOfText => some .endInValue

def ArrayEnd.whenSkipped? : ArrayEnd → Option SyntaxFault
  | commaClosed => some .noValue
  | ending => ending.whenRead?

/-- What a reader that wants no more items reports. -/
def ArrayEnd.whenFull? : ArrayEnd → Option SyntaxFault
  | closed => none
  | endOfText => some .endInArray
  | noComma | commaEndOfText => some .textAfterValue
  | commaClosed => some .commaBeforeEnd

inductive ObjectEnd where
  | closed
  | endOfText
  | noComma
  | commaClosed
  | commaEndOfText
  | noKey
  | badKey (read skipped : SyntaxFault)
  deriving DecidableEq, Repr

def ObjectEnd.whenRead? : ObjectEnd → Option SyntaxFault
  | closed => none
  | endOfText => some .endInObject
  | noComma => some .noCommaInObject
  | commaClosed => some .commaBeforeEnd
  | commaEndOfText => some .endInValue
  | noKey => some .keyNotString
  | badKey read _ => some read

def ObjectEnd.whenSkipped? : ObjectEnd → Option SyntaxFault
  | commaClosed => some .keyNotString
  | commaEndOfText => some .endInObject
  | badKey _ skipped => some skipped
  | ending => ending.whenRead?

inductive Source where
  | null
  | bool (value : Bool)
  | number (value : Except SyntaxFault Number)
  | text (content : Except SyntaxFault String)
  | array (items : List Source) (ending : ArrayEnd)
  | object (members : List (Except SyntaxFault String × Source)) (ending : ObjectEnd)
  | broken (place : Break)
  deriving Inhabited

namespace Source

/-- Refuses a value of the wrong kind. A scalar is read before it is refused, an array or an
object is not. -/
def refuse {α : Type} (expected : String) : Source → Except Fault α
  | null => .error (.content (.wrongKind .null expected))
  | bool b => .error (.content (.wrongKind (.bool b) expected))
  | number (.ok n) => .error (.content (.wrongKind (.number n) expected))
  | number (.error cause) => .error (.form cause)
  | text (.ok s) => .error (.content (.wrongKind (.text s) expected))
  | text (.error cause) => .error (.form cause)
  | array _ _ => .error (.content (.wrongKind .array expected))
  | object _ _ => .error (.content (.wrongKind .object expected))
  | broken place => .error (.form place.whenRead)

end Source

/-! ## From a text -/

namespace Source

mutual

/-- The value at the front of the tokens, and the tokens after it. The first argument bounds
the number of steps. -/
def valueOf : Nat → List Token → Source × List Token
  | 0, rest => (.broken (.missing .noValue), rest)
  | steps + 1, tokens =>
      match tokens with
      | [] => (.broken (.missing .endInValue), [])
      | .null :: rest => (.null, rest)
      | .bool b :: rest => (.bool b, rest)
      | .number n :: rest => (.number n, rest)
      | .text s :: rest => (.text s, rest)
      | .badWord cause :: _ => (.broken (.word cause), [])
      | .badNumber cause :: _ => (.broken (.number cause), [])
      | .badText read skipped :: _ => (.broken (.text read skipped), [])
      | .openArray :: [] => (.array [] .endOfText, [])
      | .openArray :: .closeArray :: rest => (.array [] .closed, rest)
      | .openArray :: rest =>
          let (items, ending, rest) := itemsOf steps rest
          (.array items ending, rest)
      | .openObject :: [] => (.object [] .endOfText, [])
      | .openObject :: .closeObject :: rest => (.object [] .closed, rest)
      | .openObject :: rest =>
          let (members, ending, rest) := membersOf steps rest
          (.object members ending, rest)
      | .closeArray :: _ | .closeObject :: _ | .comma :: _ | .colon :: _ | .stray _ :: _ =>
          (.broken (.missing .noValue), [])

def itemsOf : Nat → List Token → List Source × ArrayEnd × List Token
  | 0, _ => ([], .endOfText, [])
  | steps + 1, tokens =>
      let (item, rest) := valueOf steps tokens
      match rest with
      | [] => ([item], .endOfText, [])
      | .closeArray :: rest => ([item], .closed, rest)
      | .comma :: [] => ([item], .commaEndOfText, [])
      | .comma :: .closeArray :: _ => ([item], .commaClosed, [])
      | .comma :: rest =>
          let (items, ending, rest) := itemsOf steps rest
          (item :: items, ending, rest)
      | _ => ([item], .noComma, [])

def membersOf : Nat → List Token →
    List (Except SyntaxFault String × Source) × ObjectEnd × List Token
  | 0, _ => ([], .endOfText, [])
  | steps + 1, tokens =>
      match tokens with
      | .text key :: .colon :: rest =>
          let (value, rest) := valueOf steps rest
          match rest with
          | [] => ([(key, value)], .endOfText, [])
          | .closeObject :: rest => ([(key, value)], .closed, rest)
          | .comma :: [] => ([(key, value)], .commaEndOfText, [])
          | .comma :: .closeObject :: _ => ([(key, value)], .commaClosed, [])
          | .comma :: rest =>
              let (members, ending, rest) := membersOf steps rest
              ((key, value) :: members, ending, rest)
          | _ => ([(key, value)], .noComma, [])
      | .text key :: [] => ([(key, .broken (.missing .endInObject))], .endOfText, [])
      | .text key :: _ => ([(key, .broken (.missing .missingColon))], .endOfText, [])
      | .badText read skipped :: _ => ([], .badKey read skipped, [])
      | _ :: _ => ([], .noKey, [])
      | [] => ([], .endOfText, [])

end

def ofText (text : String) : Source × Bool :=
  let tokens := tokens text.toList
  let (source, rest) := valueOf (2 * tokens.length + 1) tokens
  (source, !rest.isEmpty)

/-! ## From a document in memory -/

mutual

def ofJson : Json → Source
  | .null => .null
  | .bool b => .bool b
  | .number n => .number (.ok n)
  | .text s => .text (.ok s)
  | .array items => .array (ofItems items) .closed
  | .object members => .object (ofMembers members) .closed

def ofItems : List Json → List Source
  | [] => []
  | item :: rest => ofJson item :: ofItems rest

def ofMembers : List (String × Json) → List (Except SyntaxFault String × Source)
  | [] => []
  | (key, value) :: rest => (.ok key, ofJson value) :: ofMembers rest

end

end Source

end Relabel.Json

import Relabel.Json.Number
import Relabel.Text.Quoted

/-!
# What can be wrong with a document

A text can end too early or break the rules of notation, and a document can hold something
else than its reader asks for. The cause is kept as data; its wording is in one function.
-/

namespace Relabel.Json

inductive SyntaxFault where
  | endInValue
  | endInString
  | endInArray
  | endInObject
  | noValue
  | unknownWord
  | badNumber
  | hugeNumber
  | controlCharacter
  | unknownEscape
  | strayHalf
  | missingHalf
  | keyNotString
  | missingColon
  | noCommaInArray
  | noCommaInObject
  | commaBeforeEnd
  | textAfterValue
  | tooDeep
  deriving DecidableEq, Repr

def SyntaxFault.isEnd : SyntaxFault → Bool
  | endInValue | endInString | endInArray | endInObject => true
  | _ => false

def SyntaxFault.message : SyntaxFault → String
  | endInValue => "EOF while parsing a value"
  | endInString => "EOF while parsing a string"
  | endInArray => "EOF while parsing a list"
  | endInObject => "EOF while parsing an object"
  | noValue => "expected value"
  | unknownWord => "expected ident"
  | badNumber => "invalid number"
  | hugeNumber => "number out of range"
  | controlCharacter => "control character (\\u0000-\\u001F) found while parsing a string"
  | unknownEscape => "invalid escape"
  | strayHalf => "lone leading surrogate in hex escape"
  | missingHalf => "unexpected end of hex escape"
  | keyNotString => "key must be a string"
  | missingColon => "expected `:`"
  | noCommaInArray => "expected `,` or `]`"
  | noCommaInObject => "expected `,` or `\x7d`"
  | commaBeforeEnd => "trailing comma"
  | textAfterValue => "trailing characters"
  | tooDeep => "recursion limit exceeded"

inductive Found where
  | null
  | bool (value : Bool)
  | number (value : Number)
  | text (value : String)
  | array
  | object
  deriving DecidableEq, Repr

def Found.message : Found → String
  | null => "null"
  | bool b => "boolean `" ++ (if b then "true" else "false") ++ "`"
  | number (.whole n fits) => "integer `" ++ (Number.whole n fits).text ++ "`"
  | number (.real x) => "floating point `" ++ (Number.real x).text ++ "`"
  | text s => "string " ++ Text.quoted s
  | array => "sequence"
  | object => "map"

inductive DataFault where
  | wrongKind (found : Found) (expected : String)
  | wrongValue (found : Found) (expected : String)
  | unknownTag (tag : String) (known : List String)
  | duplicateKey (key : String)
  | tooLong (length : Nat)
  deriving DecidableEq, Repr

/-- The known tags of a message: two are joined by `or`, more are listed. -/
def listTags (known : List String) : String :=
  let quoted := known.map fun tag => "`" ++ tag ++ "`"
  match quoted with
  | [a, b] => a ++ " or " ++ b
  | tags => "one of " ++ ", ".intercalate tags

def DataFault.message : DataFault → String
  | wrongKind found expected => "invalid type: " ++ found.message ++ ", expected " ++ expected
  | wrongValue found expected => "invalid value: " ++ found.message ++ ", expected " ++ expected
  | unknownTag tag known => "unknown variant `" ++ tag ++ "`, expected " ++ listTags known
  | duplicateKey key => "duplicate field `" ++ key ++ "`"
  | tooLong length =>
      "invalid length " ++ toString length ++ ", expected fewer elements in array"

inductive Fault where
  | form (cause : SyntaxFault)
  | content (cause : DataFault)
  deriving DecidableEq, Repr

def Fault.message : Fault → String
  | form cause => cause.message
  | content cause => cause.message

end Relabel.Json

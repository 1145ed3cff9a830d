import Relabel.Yaml.Scalar

/-!
# Tokens of a YAML text

Indentation becomes explicit: a block collection starts with a token when a line is indented
further, and ends with one when a line is indented less. A key of a mapping is known as such
only at its colon; its token is then put in before the tokens that follow the place where the
key started.

Each step gives the next state, or none if the text is not well-formed.
-/

namespace Relabel.Yaml

structure Tag where
  handle : String
  suffix : String
  deriving DecidableEq, Repr

inductive Token where
  | directive
  | documentStart
  | documentEnd
  | blockSequence
  | blockMapping
  | blockEnd
  | flowSequence
  | flowSequenceEnd
  | flowMapping
  | flowMappingEnd
  | entry
  | comma
  | key
  | value
  | alias (name : String)
  | anchor (name : String)
  | tag (tag : Tag)
  | scalar (plain : Bool) (text : String)
  deriving DecidableEq, Repr

structure KeyStart where
  required : Bool
  position : Nat
  index : Nat
  line : Nat
  column : Nat
  deriving DecidableEq, Repr

structure Scan where
  cursor : Cursor
  tokens : Array Token := #[]
  keys : List (Option KeyStart) := [none]
  keyAllowed : Bool := true
  indent : Int := -1
  outer : List Int := []
  flow : Nat := 0
  /-- The place right after a quoted scalar, where a colon needs no blank behind it. -/
  afterQuote : Nat := 0

namespace Scan

def push (scan : Scan) (token : Token) : Scan :=
  { scan with tokens := scan.tokens.push token }

def allowKey (scan : Scan) (allowed : Bool) : Scan :=
  { scan with keyAllowed := allowed }

def moveTo (scan : Scan) (cursor : Cursor) : Scan :=
  { scan with cursor }

def maxKeyLength : Nat := 1024

/-- Gives up key starts that are on another line or too far away. -/
def dropStaleKeys (scan : Scan) : Option Scan := do
  let isStale (key : KeyStart) : Bool :=
    key.line < scan.cursor.line || key.index + maxKeyLength < scan.cursor.index
  if scan.keys.any (·.any fun key => isStale key && key.required) then none
  return { scan with keys := scan.keys.map (·.filter (!isStale ·)) }

def forgetKey (scan : Scan) : Option Scan :=
  match scan.keys with
  | some key :: rest => if key.required then none else some { scan with keys := none :: rest }
  | _ => some scan

def noteKey (scan : Scan) : Option Scan :=
  if !scan.keyAllowed then some scan
  else do
    let scan ← scan.forgetKey
    let cursor := scan.cursor
    let key : KeyStart := {
      required := scan.flow > 0 && scan.indent == cursor.column
      position := scan.tokens.size
      index := cursor.index
      line := cursor.line
      column := cursor.column }
    return { scan with keys := some key :: scan.keys.drop 1 }

/-- Opens a block at a column if it is further right than the innermost one; the token is put
in at the given position. -/
def openBlock (scan : Scan) (column position : Nat) (token : Token) : Scan :=
  if scan.flow = 0 && scan.indent < column then
    { scan with
      indent := column
      outer := scan.indent :: scan.outer
      tokens := scan.tokens.insertIdxIfInBounds position token }
  else scan

def closeBlocksTo (column : Int) (scan : Scan) : List Int → Scan
  | [] => scan
  | indent :: outer =>
      if scan.indent > column then
        closeBlocksTo column { scan.push .blockEnd with indent, outer } outer
      else scan

def closeBlocks (scan : Scan) (column : Int) : Scan :=
  if scan.flow = 0 then closeBlocksTo column scan scan.outer else scan

def skipSpace : Nat → Scan → Scan
  | 0, scan => scan
  | steps + 1, scan =>
      match scan.cursor.peek with
      | some ' ' => skipSpace steps (scan.moveTo scan.cursor.next)
      | some '\t' =>
          if scan.flow > 0 || !scan.keyAllowed then skipSpace steps (scan.moveTo scan.cursor.next)
          else scan
      | some '\n' | some '\r' =>
          let scan := scan.moveTo scan.cursor.nextLine
          skipSpace steps (if scan.flow = 0 then scan.allowKey true else scan)
      | some '#' => skipSpace steps (scan.moveTo scan.cursor.skipComment)
      | _ => scan

/-! ## Directives, tags and anchors -/

def skipVersionNumber (cursor : Cursor) : Option Cursor :=
  let (digits, cursor) := cursor.takeWhile Char.isDigit
  if digits.isEmpty || digits.length > 9 then none else some cursor

def isTagChar (c : Char) : Bool :=
  isNameChar c || ";/?:@&=+$,.!~*'()[]%".toList.contains c

def readEscapedByte : List Char → Option (UInt8 × List Char)
  | '%' :: a :: b :: rest => do
      return (UInt8.ofNat (16 * (← Json.hexValue? a) + (← Json.hexValue? b)), rest)
  | _ => none

def byteCount? (first : UInt8) : Option Nat :=
  if first &&& 0x80 = 0 then some 1
  else if first &&& 0xE0 = 0xC0 then some 2
  else if first &&& 0xF0 = 0xE0 then some 3
  else if first &&& 0xF8 = 0xF0 then some 4
  else none

def readContinuation : Nat → List Char → Option (List UInt8 × List Char)
  | 0, rest => some ([], rest)
  | count + 1, rest => do
      let (byte, rest) ← readEscapedByte rest
      if byte &&& 0xC0 ≠ 0x80 then none
      let (bytes, rest) ← readContinuation count rest
      return (byte :: bytes, rest)

def readEscapedChar (text : List Char) : Option (List Char × Nat) := do
  let (first, rest) ← readEscapedByte text
  let count ← byteCount? first
  let (bytes, _) ← readContinuation (count - 1) rest
  let decoded ← String.fromUTF8? (ByteArray.mk (first :: bytes).toArray)
  return (decoded.toList, 3 * count)

def readTagText : Nat → List Char → Cursor → Option (List Char × Cursor)
  | 0, text, cursor => some (text, cursor)
  | steps + 1, text, cursor =>
      match cursor.peek with
      | some '%' => do
          let (decoded, count) ← readEscapedChar cursor.rest
          readTagText steps (text ++ decoded) (cursor.skip count)
      | some c =>
          if isTagChar c then readTagText steps (text ++ [c]) cursor.next else some (text, cursor)
      | none => some (text, cursor)

/-- Reads what may follow a handle; `head` has been read as one and is part of it. -/
def readTagSuffix (head : List Char) (cursor : Cursor) : Option (List Char × Cursor) := do
  let (text, after) ← readTagText (cursor.rest.length + 1) [] cursor
  if head.isEmpty && after.index = cursor.index then none
  return (head.drop 1 ++ text, after)

def readTagHandle (cursor : Cursor) : Option (List Char × Cursor) :=
  if cursor.peek ≠ some '!' then none
  else
    let (name, cursor) := cursor.next.takeWhile isNameChar
    if cursor.peek = some '!' then some ('!' :: name ++ ['!'], cursor.next)
    else some ('!' :: name, cursor)

def readTag (cursor : Cursor) : Option (Tag × Cursor) := do
  let (tag, cursor) ←
    if cursor.peekAt 1 = some '<' then do
      let (suffix, cursor) ← readTagSuffix [] (cursor.skip 2)
      if cursor.peek ≠ some '>' then none
      pure (⟨"", String.ofList suffix⟩, cursor.next)
    else do
      let (handle, cursor) ← readTagHandle cursor
      if handle.length ≥ 2 && handle.getLast? = some '!' then do
        let (suffix, cursor) ← readTagSuffix [] cursor
        pure (⟨String.ofList handle, String.ofList suffix⟩, cursor)
      else do
        let (suffix, cursor) ← readTagSuffix handle cursor
        if suffix.isEmpty then pure (⟨"", "!"⟩, cursor)
        else pure ((⟨"!", String.ofList suffix⟩ : Tag), cursor)
  if endsWord cursor.peek then some (tag, cursor) else none

def skipDirective (cursor : Cursor) : Option Cursor := do
  let (name, cursor) := cursor.next.takeWhile isNameChar
  if name.isEmpty || !endsWord cursor.peek then none
  let cursor ←
    if String.ofList name = "YAML" then do
      let cursor ← skipVersionNumber (cursor.skipWhile isBlank)
      if cursor.peek ≠ some '.' then none
      skipVersionNumber cursor.next
    else if String.ofList name = "TAG" then do
      let (handle, cursor) ← readTagHandle (cursor.skipWhile isBlank)
      if handle ≠ ['!'] && (handle.length < 2 || handle.getLast? ≠ some '!') then none
      let (_, cursor) ← readTagSuffix [] (cursor.skipWhile isBlank)
      if endsWord cursor.peek then pure cursor else none
    else pure (cursor.skipWhile (!isLineBreak ·))
  let cursor := (cursor.skipWhile isBlank).skipComment
  if endsLine cursor.peek then some cursor.nextLine else none

def readName (cursor : Cursor) : Option (String × Cursor) :=
  let (name, cursor) := cursor.takeWhile isNameChar
  let ends := endsWord cursor.peek || cursor.peek.any fun c => "?:,]\x7d%@\x60".toList.contains c
  if name.isEmpty || !ends then none else some (String.ofList name, cursor)

/-! ## One step -/

def endBlocks (scan : Scan) : Option Scan := do
  return (← (scan.closeBlocks (-1)).forgetKey).allowKey false

def finish (scan : Scan) : Option Scan :=
  scan.endBlocks

def takeDirective (scan : Scan) : Option Scan := do
  let scan ← scan.endBlocks
  return (scan.moveTo (← skipDirective scan.cursor)).push .directive

def takeDocumentMark (scan : Scan) (token : Token) : Option Scan := do
  let scan ← scan.endBlocks
  return (scan.moveTo (scan.cursor.skip 3)).push token

def maxFlow : Nat := 255

def takeFlowStart (scan : Scan) (token : Token) : Option Scan := do
  let scan ← scan.noteKey
  if scan.flow ≥ maxFlow then none
  return ({ scan with
    keys := none :: scan.keys
    flow := scan.flow + 1
    keyAllowed := true
    cursor := scan.cursor.next }).push token

def takeFlowEnd (scan : Scan) (token : Token) : Option Scan := do
  let scan ← scan.forgetKey
  let scan := if scan.flow > 0 then
    { scan with keys := scan.keys.drop 1, flow := scan.flow - 1 } else scan
  return ((scan.allowKey false).moveTo scan.cursor.next).push token

def takeComma (scan : Scan) : Option Scan := do
  let scan ← scan.forgetKey
  return ((scan.allowKey true).moveTo scan.cursor.next).push .comma

def takeEntry (scan : Scan) : Option Scan := do
  if scan.flow > 0 || !scan.keyAllowed then none
  let scan := scan.openBlock scan.cursor.column scan.tokens.size .blockSequence
  let scan ← scan.forgetKey
  return ((scan.allowKey true).moveTo scan.cursor.next).push .entry

def takeKey (scan : Scan) : Option Scan := do
  if scan.flow = 0 && !scan.keyAllowed then none
  let scan := scan.openBlock scan.cursor.column scan.tokens.size .blockMapping
  let scan ← scan.forgetKey
  return ((scan.allowKey (scan.flow = 0)).moveTo scan.cursor.next).push .key

def takeValue (scan : Scan) : Option Scan :=
  match scan.keys with
  | some key :: rest =>
      let scan := { scan with
        keys := none :: rest
        tokens := scan.tokens.insertIdxIfInBounds key.position .key }
      let scan := scan.openBlock key.column key.position .blockMapping
      some (((scan.allowKey false).moveTo scan.cursor.next).push .value)
  | _ => do
      if scan.flow = 0 && !scan.keyAllowed then none
      let scan := scan.openBlock scan.cursor.column scan.tokens.size .blockMapping
      return ((scan.allowKey (scan.flow = 0)).moveTo scan.cursor.next).push .value

def takeName (scan : Scan) (token : String → Token) : Option Scan := do
  let scan ← scan.noteKey
  let (name, cursor) ← readName scan.cursor.next
  return ((scan.allowKey false).moveTo cursor).push (token name)

def takeTag (scan : Scan) : Option Scan := do
  let scan ← scan.noteKey
  let (tag, cursor) ← readTag scan.cursor
  return ((scan.allowKey false).moveTo cursor).push (.tag tag)

def takeBlock (scan : Scan) (folded : Bool) : Option Scan := do
  let scan ← scan.noteKey
  let (text, cursor) ← readBlock folded scan.indent scan.cursor.next
  return ((scan.allowKey true).moveTo cursor).push (.scalar false (String.ofList text))

def takeQuoted (scan : Scan) (single : Bool) : Option Scan := do
  let scan ← scan.noteKey
  let (text, cursor) ← readQuoted single (scan.cursor.rest.length + 1) [] scan.cursor.next
  let scan := ((scan.allowKey false).moveTo cursor).push (.scalar false (String.ofList text))
  return { scan with afterQuote := cursor.index }

def takePlain (scan : Scan) : Option Scan := do
  let scan ← scan.noteKey
  let (text, cursor, endsLine) ← readPlain (scan.flow > 0) (scan.indent + 1).toNat
    (scan.cursor.rest.length + 1) [] {} scan.cursor
  return ((scan.allowKey endsLine).moveTo cursor).push (.scalar true (String.ofList text))

def takeToken (scan : Scan) (c : Char) (next : Option Char) : Option Scan :=
  let inFlow := scan.flow > 0
  if c = '[' then scan.takeFlowStart .flowSequence
  else if c = '\x7b' then scan.takeFlowStart .flowMapping
  else if c = ']' then scan.takeFlowEnd .flowSequenceEnd
  else if c = '\x7d' then scan.takeFlowEnd .flowMappingEnd
  else if c = ',' then scan.takeComma
  else if c = '-' && endsWord next then scan.takeEntry
  else if c = '?' && endsWord next then scan.takeKey
  else if c = ':' && (endsWord next ||
      (inFlow && (next.any isFlowIndicator || scan.cursor.index == scan.afterQuote))) then
    scan.takeValue
  else if c = '*' then scan.takeName .alias
  else if c = '&' then scan.takeName .anchor
  else if c = '!' then scan.takeTag
  else if c = '|' && !inFlow then scan.takeBlock false
  else if c = '>' && !inFlow then scan.takeBlock true
  else if c = '\'' then scan.takeQuoted true
  else if c = '"' then scan.takeQuoted false
  else if c = '%' || c = '@' || c = '\x60' then none
  else scan.takePlain

def takeAll : Nat → Scan → Option Scan
  | 0, scan => some scan
  | steps + 1, scan => do
      let scan ← (skipSpace (scan.cursor.rest.length + 1) scan).dropStaleKeys
      let scan := scan.closeBlocks scan.cursor.column
      match scan.cursor.rest with
      | [] => scan.finish
      | c :: rest =>
          let scan ←
            if scan.cursor.column = 0 && c = '%' then scan.takeDirective
            else if scan.cursor.atDocumentMark '-' then scan.takeDocumentMark .documentStart
            else if scan.cursor.atDocumentMark '.' then scan.takeDocumentMark .documentEnd
            else scan.takeToken c rest.head?
          takeAll steps scan

end Scan

def tokens? (text : String) : Option (List Token) := do
  let scan ← Scan.takeAll (text.length + 1) { cursor := Cursor.ofText text.toList }
  return scan.tokens.toList

end Relabel.Yaml

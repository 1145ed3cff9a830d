import Relabel.Json.Token
import Relabel.Yaml.Cursor

/-!
# The text of scalars

A scalar is written plainly, between quotes, or as an indented block. Plain and quoted text may
run over several lines: one line break between words stands for a space, more stand for one
line break less. A block keeps its lines, or folds them in the same way.

Each function gives the text and the place after it, or none if the text is not well-formed.
-/

namespace Relabel.Yaml

structure Gap where
  blanks : List Char := []
  breaks : Nat := 0
  escaped : Bool := false
  deriving DecidableEq, Repr

def Gap.text (gap : Gap) : List Char :=
  if gap.escaped then List.replicate gap.breaks '\n'
  else match gap.breaks with
    | 0 => gap.blanks
    | 1 => [' ']
    | breaks + 1 => List.replicate breaks '\n'

def Gap.endsLine (gap : Gap) : Bool :=
  gap.escaped || gap.breaks > 0

def readGap (indent : Nat) : Nat → Gap → Cursor → Option (Gap × Cursor)
  | 0, gap, cursor => some (gap, cursor)
  | steps + 1, gap, cursor =>
      match cursor.peek with
      | none => some (gap, cursor)
      | some c =>
          if isBlank c then
            if gap.endsLine then
              if c == '\t' && cursor.column < indent then none
              else readGap indent steps gap cursor.next
            else readGap indent steps { gap with blanks := gap.blanks ++ [c] } cursor.next
          else if isLineBreak c then
            readGap indent steps { gap with breaks := gap.breaks + 1 } cursor.nextLine
          else some (gap, cursor)

/-! ## Plain scalars -/

def readPlainWord (inFlow : Bool) : List Char → List Char
  | [] => []
  | c :: rest =>
      if endsWord (some c) then []
      else if c == ':' && (endsWord rest.head? || (inFlow && rest.head?.any isFlowIndicator)) then []
      else if inFlow && isFlowIndicator c then []
      else c :: readPlainWord inFlow rest

/-- Reads a plain scalar that is indented by `indent` columns at least. `text` has been read,
and then `gap`. The last result tells whether the scalar ends with a line. -/
def readPlain (inFlow : Bool) (indent : Nat) :
    Nat → List Char → Gap → Cursor → Option (List Char × Cursor × Bool)
  | 0, text, gap, cursor => some (text, cursor, gap.endsLine)
  | steps + 1, text, gap, cursor =>
      if cursor.atDocumentBound || cursor.peek = some '#' then
        some (text, cursor, gap.endsLine)
      else
        let word := readPlainWord inFlow cursor.rest
        let (text, gap) := if word.isEmpty then (text, gap) else (text ++ gap.text ++ word, {})
        let cursor := cursor.skip word.length
        if !cursor.peek.any (endsWord <| some ·) then some (text, cursor, gap.endsLine)
        else do
          let (gap, cursor) ← readGap indent (cursor.rest.length + 1) gap cursor
          if !inFlow && cursor.column < indent then some (text, cursor, gap.endsLine)
          else readPlain inFlow indent steps text gap cursor

/-! ## Quoted scalars -/

def unescape? : Char → Option Char
  | '0' => some '\x00'
  | 'a' => some '\x07'
  | 'b' => some '\x08'
  | 't' | '\t' => some '\t'
  | 'n' => some '\n'
  | 'v' => some '\x0b'
  | 'f' => some '\x0c'
  | 'r' => some '\r'
  | 'e' => some '\x1b'
  | ' ' => some ' '
  | '"' => some '"'
  | '\'' => some '\''
  | '\\' => some '\\'
  | 'N' => some '\u0085'
  | '_' => some '\u00a0'
  | 'L' => some '\u2028'
  | 'P' => some '\u2029'
  | _ => none

def codeLength? : Char → Option Nat
  | 'x' => some 2
  | 'u' => some 4
  | 'U' => some 8
  | _ => none

def charOfCode? (digits : List Char) : Option Char := do
  let values ← digits.mapM Json.hexValue?
  let code := values.foldl (fun code value => 16 * code + value) 0
  if h : code.isValidChar then some (Char.ofNatAux code h) else none

/-- Reads a word between quotes: up to a blank, a line break, the closing quote or, between
double quotes, an escaped line break. -/
def readQuotedWord (single : Bool) : Nat → List Char → Cursor → Option (List Char × Cursor)
  | 0, text, cursor => some (text, cursor)
  | steps + 1, text, cursor =>
      match cursor.rest with
      | [] => some (text, cursor)
      | c :: rest =>
          if endsWord (some c) then some (text, cursor)
          else if single then
            match c, rest with
            | '\'', '\'' :: _ => readQuotedWord single steps (text ++ ['\'']) (cursor.skip 2)
            | '\'', _ => some (text, cursor)
            | c, _ => readQuotedWord single steps (text ++ [c]) cursor.next
          else
            match c, rest with
            | '"', _ => some (text, cursor)
            | '\\', [] => none
            | '\\', e :: code =>
                if isLineBreak e then some (text, cursor)
                else match unescape? e, codeLength? e with
                  | some c, _ => readQuotedWord single steps (text ++ [c]) (cursor.skip 2)
                  | none, some length => do
                      if code.length < length then none
                      let c ← charOfCode? (code.take length)
                      readQuotedWord single steps (text ++ [c]) (cursor.skip (2 + length))
                  | none, none => none
            | c, _ => readQuotedWord single steps (text ++ [c]) cursor.next

def readQuoted (single : Bool) : Nat → List Char → Cursor → Option (List Char × Cursor)
  | 0, _, _ => none
  | steps + 1, text, cursor =>
      if cursor.atDocumentBound || cursor.rest.isEmpty then none
      else do
        let (text, cursor) ← readQuotedWord single (cursor.rest.length + 1) text cursor
        match cursor.rest with
        | '\\' :: _ =>
            if single then none
            else
              let cursor := cursor.next.nextLine
              let (gap, cursor) ← readGap 0 (cursor.rest.length + 1) { escaped := true } cursor
              readQuoted single steps (text ++ gap.text) cursor
        | c :: _ =>
            if c == (if single then '\'' else '"') then some (text, cursor.next)
            else
              let (gap, cursor) ← readGap 0 (cursor.rest.length + 1) {} cursor
              readQuoted single steps (text ++ gap.text) cursor
        | [] => none

/-! ## Block scalars -/

inductive Chomping where
  | strip
  | clip
  | keep
  deriving DecidableEq, Repr

structure BlockHeader where
  chomping : Chomping := .clip
  indent? : Option Nat := none
  deriving DecidableEq, Repr

def chomping? : Option Char → Option Chomping
  | some '+' => some .keep
  | some '-' => some .strip
  | _ => none

def readIndent (cursor : Cursor) : Option (Option Nat × Cursor) :=
  match cursor.peek with
  | some '0' => none
  | some c => if c.isDigit then some (some (c.toNat - 48), cursor.next) else some (none, cursor)
  | none => some (none, cursor)

def readBlockHeader (cursor : Cursor) : Option (BlockHeader × Cursor) := do
  let (header, cursor) ← match chomping? cursor.peek with
    | some chomping => do
        let (indent?, cursor) ← readIndent cursor.next
        pure (({ chomping, indent? } : BlockHeader), cursor)
    | none => do
        let (indent?, cursor) ← readIndent cursor
        match indent?, chomping? cursor.peek with
        | some _, some chomping => pure ({ chomping, indent? }, cursor.next)
        | _, _ => pure ({ indent? }, cursor)
  let cursor := (cursor.skipWhile isBlank).skipComment
  if endsLine cursor.peek then some (header, cursor.nextLine) else none

/-- Reads the empty lines before a line of a block, and the indentation of that line. As long
as the indentation of the block is not known, it is the widest one that is met. -/
def readBlockGap (indent? : Option Nat) :
    Nat → Nat → Nat → Cursor → Option (Nat × Nat × Cursor)
  | 0, breaks, widest, cursor => some (breaks, widest, cursor)
  | steps + 1, breaks, widest, cursor =>
      let isLeft (cursor : Cursor) : Bool := indent?.all (cursor.column < ·)
      let spaces := cursor.rest.takeWhile (· == ' ')
      let count := match indent? with
        | none => spaces.length
        | some indent => min spaces.length (indent - cursor.column)
      let cursor := cursor.skip count
      let widest := max widest cursor.column
      if isLeft cursor && cursor.peek = some '\t' then none
      else if cursor.peek.any isLineBreak then
        readBlockGap indent? steps (breaks + 1) widest cursor.nextLine
      else some (breaks, widest, cursor)

/-- What stands between a line of a folded block and the next one, where `breaks` empty lines
lie between them and neither starts with a blank. -/
def foldedBreaks (breaks : Nat) : List Char :=
  if breaks = 0 then [' '] else List.replicate breaks '\n'

/-- Reads the lines of a block. `pending` is whether a line break has been read after `text`
and is not part of it yet, `breaks` counts the empty lines after it. -/
def readBlockLines (folded : Bool) (indent : Nat) :
    Nat → List Char → Bool → Bool → Nat → Cursor → Option (List Char × Bool × Nat × Cursor)
  | 0, text, pending, _, breaks, cursor => some (text, pending, breaks, cursor)
  | steps + 1, text, pending, afterBlank, breaks, cursor =>
      if cursor.column ≠ indent || cursor.rest.isEmpty then some (text, pending, breaks, cursor)
      else
        let startsBlank := cursor.peek.any isBlank
        let between :=
          if folded && pending && !afterBlank && !startsBlank then foldedBreaks breaks
          else (if pending then ['\n'] else []) ++ List.replicate breaks '\n'
        let (line, cursor) := cursor.takeWhile (!isLineBreak ·)
        let text := text ++ between ++ line
        if cursor.rest.isEmpty then some (text, false, 0, cursor)
        else do
          let cursor := cursor.nextLine
          let (breaks, _, cursor) ←
            readBlockGap (some indent) (cursor.rest.length + 1) 0 0 cursor
          readBlockLines folded indent steps text true startsBlank breaks cursor

def readBlock (folded : Bool) (outer : Int) (cursor : Cursor) : Option (List Char × Cursor) := do
  let (header, cursor) ← readBlockHeader cursor
  let given? := header.indent?.map fun indent => indent + outer.toNat
  let (breaks, widest, cursor) ← readBlockGap given? (cursor.rest.length + 1) 0 0 cursor
  let indent := given?.getD (max (max widest (outer + 1).toNat) 1)
  let (text, pending, breaks, cursor) ←
    readBlockLines folded indent (cursor.rest.length + 1) [] false false breaks cursor
  let last := if pending && header.chomping != .strip then ['\n'] else []
  let empty := if header.chomping == .keep then List.replicate breaks '\n' else []
  return (text ++ last ++ empty, cursor)

end Relabel.Yaml

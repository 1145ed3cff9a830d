import Relabel.Json.Value

/-!
# Writing documents

A document is written on one line, or with every item and member on a line of its own,
indented by two spaces for each level. Strings escape the quote, the backslash and the
control characters below U+0020, and nothing else.
-/

namespace Relabel.Json

inductive Style where
  | compact
  | pretty
  deriving DecidableEq, Repr

def Style.lineBreak (style : Style) (level : Nat) : List Char :=
  match style with
  | compact => []
  | pretty => '\n' :: List.replicate (2 * level) ' '

def Style.colon : Style → List Char
  | compact => [':']
  | pretty => [':', ' ']

def hexDigit (n : Nat) : Char :=
  if n < 10 then Char.ofNat (48 + n) else Char.ofNat (87 + n)

def escapeChar (c : Char) : List Char :=
  if c = '"' then ['\\', '"']
  else if c = '\\' then ['\\', '\\']
  else if c = '\n' then ['\\', 'n']
  else if c = '\r' then ['\\', 'r']
  else if c = '\t' then ['\\', 't']
  else if c = '\x08' then ['\\', 'b']
  else if c = '\x0c' then ['\\', 'f']
  else if c.toNat < 0x20 then
    ['\\', 'u', '0', '0', hexDigit (c.toNat / 16), hexDigit (c.toNat % 16)]
  else [c]

def quote (s : String) : List Char :=
  '"' :: s.toList.flatMap escapeChar ++ ['"']

mutual

def render (style : Style) (level : Nat) : Json → List Char
  | .null => "null".toList
  | .bool b => if b then "true".toList else "false".toList
  | .number n => n.text.toList
  | .text s => quote s
  | .array [] => ['[', ']']
  | .array (item :: items) =>
      '[' :: style.lineBreak (level + 1) ++ render style (level + 1) item ++
        renderItems style (level + 1) items ++ style.lineBreak level ++ [']']
  | .object [] => ['\x7b', '\x7d']
  | .object ((key, value) :: members) =>
      '\x7b' :: style.lineBreak (level + 1) ++ quote key ++ style.colon ++
        render style (level + 1) value ++ renderMembers style (level + 1) members ++
        style.lineBreak level ++ ['\x7d']

def renderItems (style : Style) (level : Nat) : List Json → List Char
  | [] => []
  | item :: items =>
      ',' :: style.lineBreak level ++ render style level item ++ renderItems style level items

def renderMembers (style : Style) (level : Nat) : List (String × Json) → List Char
  | [] => []
  | (key, value) :: members =>
      ',' :: style.lineBreak level ++ quote key ++ style.colon ++ render style level value ++
        renderMembers style level members

end

def print (style : Style) (json : Json) : String :=
  String.ofList (render style 0 json)

end Relabel.Json

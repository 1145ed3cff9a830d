import Relabel.Unicode.CaseMapping

/-!
# The case of a piece

How a piece of an identifier is written in lowercase and with a capital. A capital sigma at
the end of a lowercased text is a final sigma, any other is a plain one.
-/

namespace Relabel.Word

open Relabel.Unicode

def lowercase : List Char → List Char
  | [] => []
  | [c] => if c = 'Σ' then ['ς'] else toLowercase c
  | c :: rest => toLowercase c ++ lowercase rest

def capitalize : List Char → List Char
  | [] => []
  | c :: rest => toUppercase c ++ lowercase rest

end Relabel.Word

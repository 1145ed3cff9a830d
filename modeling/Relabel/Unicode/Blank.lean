import Relabel.Unicode.Ranges

/-!
# White space

The characters with the property White_Space: the space, the controls from tab to carriage
return, the next-line control, and the spaces and separators of other blocks.
-/

namespace Relabel.Unicode

/-- All white space, ASCII included. -/
def blankRanges : Ranges := [
    (0x9, 0xD), (0x20, 0x20), (0x85, 0x85), (0xA0, 0xA0), (0x1680, 0x1680), (0x2000, 0x200A),
    (0x2028, 0x2029), (0x202F, 0x202F), (0x205F, 0x205F), (0x3000, 0x3000)
  ]

def isBlank (c : Char) : Bool :=
  blankRanges.contains c

def trimBlank (text : List Char) : List Char :=
  ((text.dropWhile isBlank).reverse.dropWhile isBlank).reverse

end Relabel.Unicode

/-!
# Sets of characters as ranges of code points

The property tables of this folder follow Unicode 17. A table covers the characters from
U+0080 on; each property decides the ASCII characters by itself.
-/

namespace Relabel.Unicode

/-- A set of code points, given by the first and the last one of each range. -/
abbrev Ranges := List (Nat × Nat)

def Ranges.contains (ranges : Ranges) (c : Char) : Bool :=
  ranges.any fun range => range.1 ≤ c.toNat && c.toNat ≤ range.2

def isAscii (c : Char) : Bool :=
  c.toNat < 0x80

end Relabel.Unicode

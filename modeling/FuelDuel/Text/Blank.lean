/-!
White space, as the Unicode property White_Space defines it: twenty-five code points in ten
ranges. Core's `Char.isWhitespace` knows only four of them.
-/

namespace FuelDuel.Text

/-- The ranges of white-space code points, both ends included, in ascending order. -/
def blankRanges : List (Nat × Nat) :=
  [(0x09, 0x0D), (0x20, 0x20), (0x85, 0x85), (0xA0, 0xA0), (0x1680, 0x1680),
    (0x2000, 0x200A), (0x2028, 0x2029), (0x202F, 0x202F), (0x205F, 0x205F), (0x3000, 0x3000)]

/-- Whether a character is white space. -/
def isBlank (c : Char) : Bool :=
  blankRanges.any fun range => range.1 ≤ c.toNat && c.toNat ≤ range.2

/-- There are twenty-five white-space code points. -/
example : (blankRanges.map fun range => range.2 + 1 - range.1).sum = 25 := by decide

end FuelDuel.Text

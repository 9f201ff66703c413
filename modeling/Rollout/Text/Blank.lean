import Rollout.Text.Ranges

/-!
# White space

The Unicode property White_Space, and texts without white space at their ends.
-/

namespace Rollout.Text

/-- The white-space characters. -/
def blankRanges : List (Nat × Nat) :=
  [(0x09, 0x0D), (0x20, 0x20), (0x85, 0x85), (0xA0, 0xA0), (0x1680, 0x1680), (0x2000, 0x200A),
    (0x2028, 0x2029), (0x202F, 0x202F), (0x205F, 0x205F), (0x3000, 0x3000)]

/-- Whether the character is white space. -/
def isBlank (c : Char) : Bool :=
  inRanges blankRanges c.toNat

/-- The text without the white space it starts with. -/
def trimStart (l : List Char) : List Char :=
  l.dropWhile isBlank

/-- The text without the white space at its ends. -/
def trim (l : List Char) : List Char :=
  (trimStart (trimStart l).reverse).reverse

end Rollout.Text

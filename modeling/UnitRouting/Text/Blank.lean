import UnitRouting.Text.Basic

/-! # White space

The code points with the Unicode property `White_Space`, and those that count as blank at the ends
of authored text: the four information separators U+001C to U+001F as well. -/

namespace UnitRouting

/-- White space, by the Unicode property. -/
def CodePoint.isWhiteSpace (c : CodePoint) : Bool :=
  (decide (0x09 ≤ c.val) && decide (c.val ≤ 0x0D))
  || c.val == 0x20 || c.val == 0x85 || c.val == 0xA0 || c.val == 0x1680
  || (decide (0x2000 ≤ c.val) && decide (c.val ≤ 0x200A))
  || c.val == 0x2028 || c.val == 0x2029 || c.val == 0x202F || c.val == 0x205F || c.val == 0x3000

/-- White space, and the four information separators. -/
def CodePoint.isBlank (c : CodePoint) : Bool :=
  c.isWhiteSpace || (decide (0x1C ≤ c.val) && decide (c.val ≤ 0x1F))

/-- The text without the blanks at its ends. -/
def Text.strip (t : Text) : Text := t.trim CodePoint.isBlank

/-- The members of a comma-separated list, stripped; empty members stay, an empty text has none. -/
def Text.members (t : Text) : List Text :=
  if t.isEmpty then [] else (t.splitOn ',').map Text.strip

end UnitRouting

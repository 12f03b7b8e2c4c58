import UnitRouting.Text.Case

/-! # Letters without case

Two code points are the same letter if their lower cases agree, or if their lower cases are two
of those that share an upper case. -/

namespace UnitRouting

/-- Lower-case letters, and the other lower-case letters with the same upper case. -/
def sharedUpper : List (Nat × List Nat) := [
    (0x69, [0x131]), (0x73, [0x17F]), (0xB5, [0x3BC]), (0x131, [0x69]), (0x17F, [0x73]),
    (0x345, [0x3B9, 0x1FBE]), (0x390, [0x1FD3]), (0x3B0, [0x1FE3]), (0x3B2, [0x3D0]),
    (0x3B5, [0x3F5]), (0x3B8, [0x3D1]), (0x3B9, [0x345, 0x1FBE]), (0x3BA, [0x3F0]),
    (0x3BC, [0xB5]), (0x3C0, [0x3D6]), (0x3C1, [0x3F1]), (0x3C2, [0x3C3]), (0x3C3, [0x3C2]),
    (0x3C6, [0x3D5]), (0x3D0, [0x3B2]), (0x3D1, [0x3B8]), (0x3D5, [0x3C6]), (0x3D6, [0x3C0]),
    (0x3F0, [0x3BA]), (0x3F1, [0x3C1]), (0x3F5, [0x3B5]), (0x432, [0x1C80]), (0x434, [0x1C81]),
    (0x43E, [0x1C82]), (0x441, [0x1C83]), (0x442, [0x1C84, 0x1C85]), (0x44A, [0x1C86]),
    (0x463, [0x1C87]), (0x1C80, [0x432]), (0x1C81, [0x434]), (0x1C82, [0x43E]), (0x1C83, [0x441]),
    (0x1C84, [0x442, 0x1C85]), (0x1C85, [0x442, 0x1C84]), (0x1C86, [0x44A]), (0x1C87, [0x463]),
    (0x1C88, [0xA64B]), (0x1E61, [0x1E9B]), (0x1E9B, [0x1E61]), (0x1FBE, [0x345, 0x3B9]),
    (0x1FD3, [0x390]), (0x1FE3, [0x3B0]), (0xA64B, [0x1C88]), (0xFB05, [0xFB06]),
    (0xFB06, [0xFB05])]

/-- The code points other than `n` whose lower case is `n`. -/
def Runs.preimages (n : Nat) (runs : Runs) : List Nat :=
  runs.filterMap fun run =>
    let source := ((n : Int) - run.shift).toNat
    if run.first ≤ source ∧ source ≤ run.last ∧ (source - run.first) % run.step = 0
      ∧ (source : Int) + run.shift = n then some source else none

namespace CodePoint

/-- The lower case among the ASCII letters only. -/
def toAsciiLower (c : CodePoint) : CodePoint :=
  if c.isBetween 'A' 'Z' then ofNat (c.val + 32) else c

/-- All code points that are the same letter as a lower-case one. -/
def variants (lower : CodePoint) : List Nat :=
  (lower.val :: (specialCase lower.val sharedUpper).getD []).flatMap fun n =>
    n :: lowerRuns.preimages n

/-- All code points that are the same ASCII letter as a lower-case one. -/
def asciiVariants (lower : CodePoint) : List Nat :=
  if lower.isBetween 'a' 'z' then [lower.val, lower.val - 32] else [lower.val]

end CodePoint

end UnitRouting

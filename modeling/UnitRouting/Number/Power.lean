/-! # Powers

The powers of two and of ten that numbers are scaled by. -/

namespace UnitRouting

/-- Two to the power `n`. -/
def twoTo (n : Nat) : Nat := Nat.pow 2 n

/-- Ten to the power `n`. -/
def tenTo (n : Nat) : Nat := Nat.pow 10 n

end UnitRouting

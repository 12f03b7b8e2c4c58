import UnitRouting.Number.Double

/-! # Numbers

A number is an integer of any size or a 64-bit floating point number. The two kinds are compared
by value, without rounding. -/

namespace UnitRouting

/-- An integer of any size or a floating point number. -/
inductive Number where
  | int (n : Int)
  | float (x : Double)
  deriving DecidableEq

namespace Number

/-- Where a number lies on the line; NaN lies nowhere. -/
def place? : Number → Option Double.Place
  | .int n => some (.ofInt n)
  | .float x => x.place?

/-- Numeric equality across the two kinds, exact; NaN equals nothing. -/
def eq (x y : Number) : Bool :=
  match x.place?, y.place? with
  | some a, some b => decide (a = b)
  | _, _ => false

/-- Numeric order across the two kinds, exact; NaN is below nothing. -/
def lt (x y : Number) : Bool :=
  match x.place?, y.place? with
  | some a, some b => a.lt b
  | _, _ => false

/-- The floating point number nearest to a number. -/
def toDouble : Number → Double
  | .int n => .ofInt n
  | .float x => x

end Number

end UnitRouting

import UnitRouting.Number.Shortest

/-! # Number text

How the shortest decimal of a floating point number is laid out as text. The layout is a record;
rules use `Layout.plain` to compare and `Layout.display` to show. -/

namespace UnitRouting

/-- The choices by which a number becomes text. The point of a number is the position of its
    decimal point, counted from its first significant digit. -/
structure Layout where
  /-- Numbers are written without an exponent if their point is above this. -/
  minPoint : Int
  /-- Numbers are written without an exponent if their point is at most this. -/
  maxPoint : Int
  /-- What follows the digits of a whole number that has no exponent. -/
  wholeMark : Text
  /-- The least number of digits of an exponent. -/
  exponentWidth : Nat
  /-- Negative zero keeps its sign. -/
  signedZero : Bool
  nan : Text
  infinity : Text

namespace Layout

/-- The layout in which values are compared: no exponent from `1e-6` to below `1e21`, whole numbers
    without a fraction. -/
def plain : Layout where
  minPoint := -6
  maxPoint := 21
  wholeMark := []
  exponentWidth := 1
  signedZero := false
  nan := "NaN"
  infinity := "Infinity"

/-- The layout in which values are shown: no exponent from `1e-4` to below `1e16`, whole numbers
    with a fraction of zero, exponents of at least two digits. -/
def display : Layout where
  minPoint := -4
  maxPoint := 16
  wholeMark := ".0"
  exponentWidth := 2
  signedZero := true
  nan := "nan"
  infinity := "inf"

/-- The digits of an exponent, with zeros in front up to the least width. -/
def exponentDigits (layout : Layout) (n : Nat) : Text :=
  let digits := Text.ofNat n
  List.replicate (layout.exponentWidth - digits.length) (CodePoint.ofChar '0') ++ digits

/-- The text of a positive number whose significant digits, without zeros at the end, and whose
    point are given. -/
def positive (layout : Layout) (digits : Text) (point : Int) : Text :=
  let count : Int := digits.length
  let zeros (n : Int) : Text := List.replicate n.toNat (CodePoint.ofChar '0')
  if layout.minPoint < point ∧ point ≤ layout.maxPoint then
    if count ≤ point then digits ++ zeros (point - count) ++ layout.wholeMark
    else if 0 < point then digits.take point.toNat ++ "." ++ digits.drop point.toNat
    else "0." ++ zeros (-point) ++ digits
  else
    let power := point - 1
    let fraction : Text := if count = 1 then [] else "." ++ digits.drop 1
    digits.take 1 ++ fraction ++ "e" ++ (if 0 ≤ power then "+" else "-" : Text)
      ++ layout.exponentDigits power.natAbs

/-- The text of a positive decimal. -/
def decimal (layout : Layout) (d : Decimal) : Text :=
  let written := Text.ofNat d.digits
  let digits := (written.reverse.dropWhile (· == CodePoint.ofChar '0')).reverse
  layout.positive digits (d.exponent + written.length)

/-- The text of a floating point number. -/
def write (layout : Layout) : Double → Text
  | .nan => layout.nan
  | .infinite negative => (if negative then "-" else "" : Text) ++ layout.infinity
  | .finite negative mantissa exponent _ =>
    if mantissa = 0 then
      (if negative && layout.signedZero then "-" else "" : Text) ++ "0" ++ layout.wholeMark
    else
      (if negative then "-" else "" : Text) ++ layout.decimal (.shortest mantissa exponent)

end Layout

end UnitRouting

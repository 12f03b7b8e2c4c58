import UnitRouting.Number.Power
import UnitRouting.Text.Basic

/-! # Binary floating point

The 64-bit numbers of IEEE 754 as exact data: a sign, a natural significand and a power of two.
Every comparison is a comparison of integers, because each finite number is a whole multiple of
the least positive one, `2 ^ -1074`. -/

namespace UnitRouting

/-- The significand and exponent of a finite number are in canonical form: either the significand
    is full, or it is short and the exponent is the least one. -/
def Double.Canonical (mantissa : Nat) (exponent : Int) : Prop :=
  mantissa < twoTo 53 ∧ -1074 ≤ exponent ∧ exponent ≤ 971
    ∧ (twoTo 52 ≤ mantissa ∨ exponent = -1074)

instance (mantissa : Nat) (exponent : Int) : Decidable (Double.Canonical mantissa exponent) :=
  inferInstanceAs (Decidable (_ ∧ _))

/-- A 64-bit floating point number, with a single NaN. -/
inductive Double where
  /-- Not a number. -/
  | nan
  | infinite (negative : Bool)
  /-- The number `± mantissa * 2 ^ exponent`. -/
  | finite (negative : Bool) (mantissa : Nat) (exponent : Int)
      (canonical : Double.Canonical mantissa exponent)
  deriving DecidableEq

namespace Double

def zero (negative : Bool) : Double := .finite negative 0 (-1074) (by decide)

def one : Double := .finite false (twoTo 52) (-52) (by decide)

/-- `num / den` rounded to a natural number; a half goes to the even neighbour. -/
def roundQuotient (num den : Nat) : Nat :=
  if 2 * (num % den) < den then num / den
  else if den < 2 * (num % den) then num / den + 1
  else num / den + (num / den) % 2

/-- The `e` with `2 ^ e ≤ num / den < 2 ^ (e + 1)`, for positive numbers. -/
def binade (num den : Nat) : Int :=
  let guess : Int := num.log2 - den.log2
  if num * twoTo (-guess).toNat < den * twoTo guess.toNat then guess - 1 else guess

/-- The number with this significand and exponent, or the infinity of its sign if there is none. -/
def ofScaled (negative : Bool) (mantissa : Nat) (exponent : Int) : Double :=
  if h : Canonical mantissa exponent then .finite negative mantissa exponent h
  else .infinite negative

/-- The number nearest to `num / den`; a half goes to the even significand, and what rounds
    beyond the largest finite number is infinite. -/
def ofRatio (negative : Bool) (num den : Nat) : Double :=
  if num = 0 then zero negative
  else
    let exponent := max (binade num den - 52) (-1074)
    let mantissa := roundQuotient (num * twoTo (-exponent).toNat) (den * twoTo exponent.toNat)
    if mantissa = twoTo 53 then ofScaled negative (twoTo 52) (exponent + 1)
    else ofScaled negative mantissa exponent

/-- The number nearest to an integer. -/
def ofInt (n : Int) : Double := ofRatio (decide (n < 0)) n.natAbs 1

/-- The number nearest to `digits * 10 ^ exponent`. The first two tests only keep the powers small:
    above `10 ^ 310` everything is infinite, below `2 ^ -1080` everything is zero. -/
def ofDecimal (negative : Bool) (digits : Nat) (exponent : Int) : Double :=
  if digits = 0 then zero negative
  else if 310 < exponent then .infinite negative
  else if (digits.log2 : Int) + 1 + 3 * exponent < -1080 then zero negative
  else ofRatio negative (digits * tenTo exponent.toNat) (tenTo (-exponent).toNat)

def isNaN : Double → Bool
  | .nan => true
  | _ => false

def isZero : Double → Bool
  | .finite _ mantissa _ _ => mantissa == 0
  | _ => false

/-- How many times the least positive number, `2 ^ -1074`, a finite number is. -/
def units (negative : Bool) (mantissa : Nat) (exponent : Int) : Int :=
  let size : Int := ↑(mantissa * twoTo (exponent + 1074).toNat)
  if negative then -size else size

/-- The value of a finite number if it is whole. -/
def toInt? : Double → Option Int
  | .finite negative mantissa exponent _ =>
    if mantissa % twoTo (-exponent).toNat = 0 then
      let size : Int := ↑(mantissa / twoTo (-exponent).toNat * twoTo exponent.toNat)
      some (if negative then -size else size)
    else none
  | _ => none

/-- Where a number that is not NaN lies on the line. -/
inductive Place where
  | below
  /-- At a multiple of `2 ^ -1074`. -/
  | at (units : Int)
  | above
  deriving DecidableEq

namespace Place

/-- Order on the line. -/
def lt : Place → Place → Bool
  | .below, .below => false
  | .below, _ => true
  | .at a, .at b => decide (a < b)
  | .at _, .above => true
  | _, _ => false

/-- The place of an integer. -/
def ofInt (n : Int) : Place := .at (n * twoTo 1074)

end Place

/-- Where a number lies; NaN lies nowhere. -/
def place? : Double → Option Place
  | .nan => none
  | .infinite negative => some (if negative then .below else .above)
  | .finite negative mantissa exponent _ => some (.at (units negative mantissa exponent))

/-- Numeric order; NaN is not below anything. -/
def lt (x y : Double) : Bool :=
  match x.place?, y.place? with
  | some a, some b => a.lt b
  | _, _ => false

/-- Numeric equality: the two zeros are equal, and NaN equals nothing. -/
def eq (x y : Double) : Bool :=
  match x.place?, y.place? with
  | some a, some b => decide (a = b)
  | _, _ => false

/-- The rounded sum of an integer that is itself rounded first and a number. -/
def intAdd (n : Int) (x : Double) : Double :=
  match ofInt n, x with
  | .nan, _ => .nan
  | _, .nan => .nan
  | .infinite negative, .infinite negative' =>
    if negative = negative' then .infinite negative else .nan
  | .infinite negative, .finite .. => .infinite negative
  | .finite .., .infinite negative => .infinite negative
  | .finite s m e _, .finite s' m' e' _ =>
    let sum := units s m e + units s' m' e'
    ofRatio (decide (sum < 0)) sum.natAbs (twoTo 1074)

/-- The 64 bits: sign, eleven exponent bits with bias 1023, 52 bits of significand. -/
def bits : Double → Nat
  | .nan => 0x7FF8000000000000
  | .infinite negative => (if negative then twoTo 63 else 0) + 0x7FF0000000000000
  | .finite negative mantissa exponent _ =>
    (if negative then twoTo 63 else 0)
      + (if mantissa < twoTo 52 then mantissa
         else (exponent + 1075).toNat * twoTo 52 + (mantissa - twoTo 52))

end Double

end UnitRouting

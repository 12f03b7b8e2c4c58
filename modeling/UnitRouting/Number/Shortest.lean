import UnitRouting.Number.Double

/-! # Shortest decimals

The decimal with the fewest digits that reads back as a given floating point number, and of those
the one nearest to it. -/

namespace UnitRouting

/-- The number `digits * 10 ^ exponent`. -/
structure Decimal where
  digits : Nat
  exponent : Int
  deriving DecidableEq

namespace Decimal

/-- The floating point number nearest to a decimal. -/
def toDouble (d : Decimal) : Double := .ofDecimal false d.digits d.exponent

/-- How many decimal digits a positive number has. -/
def digitCount (n : Nat) : Nat := if n < 10 then 1 else digitCount (n / 10) + 1

/-- The `e` with `10 ^ e ≤ num / den < 10 ^ (e + 1)`, for positive numbers. -/
def decade (num den : Nat) : Int :=
  if den ≤ num then digitCount (num / den) - 1
  else -(digitCount ((den - 1) / num) : Int)

/-- The decimal on the grid of `10 ^ exponent` that reads back as `x`, whose value is `num / den`:
    only the two neighbours of the value can, and if both do, the nearer one wins, or the even one
    halfway between them. -/
def onGrid? (x : Double) (num den : Nat) (exponent : Int) : Option Decimal :=
  let num := num * tenTo (-exponent).toNat
  let den := den * tenTo exponent.toNat
  let low : Decimal := ⟨num / den, exponent⟩
  let high : Decimal := ⟨num / den + 1, exponent⟩
  match decide (low.toDouble = x), decide (high.toDouble = x) with
  | true, true => some ⟨Double.roundQuotient num den, exponent⟩
  | true, false => some low
  | false, true => some high
  | false, false => none

/-- The decimal of fewest digits that reads back as the positive number
    `mantissa * 2 ^ exponent`; seventeen digits are always enough. -/
def shortest (mantissa : Nat) (exponent : Int) : Decimal :=
  let num := mantissa * twoTo exponent.toNat
  let den := twoTo (-exponent).toNat
  let top := decade num den
  let x := Double.ofScaled false mantissa exponent
  match (List.range 17).findSome? fun n : Nat => onGrid? x num den (top - n) with
  | some d => d
  | none => ⟨num * tenTo (16 - top).toNat / (den * tenTo (top - 16).toNat), top - 16⟩

end Decimal

end UnitRouting

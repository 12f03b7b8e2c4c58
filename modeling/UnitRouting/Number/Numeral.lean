import UnitRouting.Fault
import UnitRouting.Text.Blank
import UnitRouting.Text.Digit

/-! # Integer numerals

Integers as authors write them: with an optional sign, digits of any script, and single underscores
between the digits. -/

namespace UnitRouting.Numeral

/-- The values of digits among which single underscores may stand; `afterDigit` tells whether a
    digit stands just before. -/
def groupedDigits? (afterDigit : Bool) : Text → Option (List Nat)
  | [] => if afterDigit then some [] else none
  | c :: rest =>
    match c.decimalValue? with
    | some d => (groupedDigits? true rest).map (d :: ·)
    | none =>
      if c = CodePoint.ofChar '_' ∧ afterDigit = true then groupedDigits? false rest else none

/-- Reads an integer numeral with white space around it; it has at most `numeralLimit` digits. -/
def int? (t : Text) : Option Int :=
  let body := t.trim CodePoint.isWhiteSpace
  let (negative, digits) : Bool × Text :=
    match body with
    | c :: rest =>
      if c = CodePoint.ofChar '-' then (true, rest)
      else if c = CodePoint.ofChar '+' then (false, rest)
      else (false, body)
    | [] => (false, body)
  match groupedDigits? false digits with
  | none => none
  | some values =>
    if values.length > numeralLimit then none
    else
      let size : Int := Text.digitsValue values
      some (if negative then -size else size)

end UnitRouting.Numeral

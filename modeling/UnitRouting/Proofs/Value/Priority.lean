import UnitRouting.Proofs.Number.Rounding
import UnitRouting.Proofs.Outcome
import UnitRouting.Proofs.Text.Digits
import UnitRouting.Proofs.Value.Shown
import UnitRouting.Rule.Basic

/-! # Priorities within the digit limit

A value that can be shown stands for a priority that can be shown: numerals are read within the same
limit, and no floating point number reaches it. -/

namespace UnitRouting

open Outcome

namespace CodePoint

theorem decimalValue?_lt {c : CodePoint} {d : Nat} (read : c.decimalValue? = some d) : d < 10 := by
  obtain ⟨start, -, found⟩ := List.exists_of_findSome?_eq_some read
  split at found
  · next range =>
      cases found
      omega
  · cases found

end CodePoint

namespace Numeral

theorem groupedDigits?_small {afterDigit : Bool} {t : Text} {digits : List Nat}
    (read : groupedDigits? afterDigit t = some digits) : ∀ d ∈ digits, d < 10 := by
  induction t generalizing afterDigit digits with
  | nil =>
      simp only [groupedDigits?] at read
      split at read
      · cases read
        exact fun _ member => absurd member List.not_mem_nil
      · cases read
  | cons c rest ih =>
      simp only [groupedDigits?] at read
      split at read
      · next d value =>
          obtain ⟨more, behind, rfl⟩ := Option.map_eq_some_iff.mp read
          exact List.forall_mem_cons.mpr ⟨CodePoint.decimalValue?_lt value, ih behind⟩
      · split at read
        · exact ih read
        · cases read

theorem int?_fits {t : Text} {n : Int} (read : int? t = some n) : n.natAbs < numeralBound := by
  simp only [int?] at read
  split at read
  · cases read
  · next digits grouped =>
      split at read
      · cases read
      · next short =>
          have below := Text.digitsValue_lt (groupedDigits?_small grouped)
          have room := tenTo_le_tenTo (Nat.le_of_not_gt short)
          rw [← Option.some.inj read, natAbs_signed]
          exact Nat.lt_of_lt_of_le below room

end Numeral

theorem twoTo_le_tenTo (n : Nat) : twoTo n ≤ tenTo n := Nat.pow_le_pow_left (by decide) n

theorem Double.toInt?_fits {x : Double} {n : Int} (whole : x.toInt? = some n) :
    n.natAbs < numeralBound := by
  cases x with
  | nan | infinite => cases whole
  | finite negative mantissa exponent canonical =>
      simp only [toInt?] at whole
      split at whole
      · rw [← Option.some.inj whole, natAbs_signed]
        obtain ⟨small, -, upper, -⟩ := canonical
        have significand : mantissa / twoTo (-exponent).toNat < twoTo 53 :=
          Nat.lt_of_le_of_lt (Nat.div_le_self _ _) small
        have within : 53 + exponent.toNat ≤ numeralLimit := by
          have limit : numeralLimit = 4300 := rfl
          omega
        calc mantissa / twoTo (-exponent).toNat * twoTo exponent.toNat
            < twoTo 53 * twoTo exponent.toNat :=
              Nat.mul_lt_mul_of_pos_right significand (twoTo_pos _)
          _ = twoTo (53 + exponent.toNat) := twoTo_mul_twoTo _ _
          _ ≤ tenTo (53 + exponent.toNat) := twoTo_le_tenTo _
          _ ≤ tenTo numeralLimit := tenTo_le_tenTo within
      · cases whole

/-- The priority that a value within the limit stands for is within the limit. -/
theorem Value.priority_fits {v : Value} (fits : v.Fits) {n : Int} (accepted : v.priority = .ok n) :
    n.natAbs < numeralBound := by
  unfold priority at accepted
  split at accepted
  · next m read =>
      cases accepted
      cases v with
      | int =>
          cases read
          exact fits
      | float x => exact Double.toInt?_fits read
      | text t => exact Numeral.int?_fits read
      | _ => cases read
  · split at accepted
    · cases accepted
    · obtain ⟨shown, -, refused⟩ := bind_eq_ok.mp accepted
      cases refused

end UnitRouting

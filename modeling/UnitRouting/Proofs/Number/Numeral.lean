import UnitRouting.Number.Numeral
import UnitRouting.Proofs.Text.Strip

/-! # Numerals of nothing but digits

A numeral without a sign, white space and underscores is read, unless it has more digits than the
limit. -/

namespace UnitRouting

namespace CodePoint

theorem zeroDigits_apart : ∀ start ∈ zeroDigits, 0x30 ≤ start ∧
    (start + 10 ≤ 0x85 ∨ 0xA0 < start) ∧ (start + 10 ≤ 0x1680 ∨ 0x1680 < start) ∧
      (start + 10 ≤ 0x2000 ∨ 0x3000 < start) := by
  decide

variable {c : CodePoint}

theorem zero_of_isDecimal (decimal : c.isDecimal = true) :
    ∃ start ∈ zeroDigits, start ≤ c.val ∧ c.val < start + 10 := by
  obtain ⟨d, value⟩ := Option.isSome_iff_exists.mp decimal
  obtain ⟨start, script, found⟩ := List.exists_of_findSome?_eq_some value
  split at found
  · next range => exact ⟨start, script, range⟩
  · cases found

theorem not_isWhiteSpace_of_isDecimal (decimal : c.isDecimal = true) : c.isWhiteSpace = false := by
  obtain ⟨start, script, least, most⟩ := zero_of_isDecimal decimal
  have apart := zeroDigits_apart start script
  simp only [isWhiteSpace, Bool.or_eq_false_iff, Bool.and_eq_false_iff, decide_eq_false_iff_not,
    beq_eq_false_iff_ne]
  omega

theorem ne_sign_of_isDecimal (decimal : c.isDecimal = true) : c ≠ ofChar '-' ∧ c ≠ ofChar '+' := by
  obtain ⟨start, script, least, most⟩ := zero_of_isDecimal decimal
  have apart := zeroDigits_apart start script
  have minus : (ofChar '-').val = 0x2D := rfl
  have plus : (ofChar '+').val = 0x2B := rfl
  constructor
  · rintro rfl
    omega
  · rintro rfl
    omega

end CodePoint

theorem Text.trim_of_none {skip : CodePoint → Bool} {t : Text} (none : ∀ c ∈ t, skip c = false) :
    t.trim skip = t := by
  have whole := @trim_append skip [] t [] nofun nofun
    (fun c first => none c (List.mem_of_mem_head? first))
    fun c last => none c (List.mem_of_mem_getLast? last)
  rwa [List.append_nil] at whole

namespace Numeral

theorem groupedDigits?_of_decimal {t : Text} (decimal : ∀ c ∈ t, c.isDecimal = true)
    {afterDigit : Bool} (given : afterDigit = true ∨ t ≠ []) :
    ∃ values, groupedDigits? afterDigit t = some values ∧ values.length = t.length := by
  induction t generalizing afterDigit with
  | nil =>
      rcases given with rfl | nonempty
      · exact ⟨[], rfl, rfl⟩
      · exact absurd rfl nonempty
  | cons c rest ih =>
      obtain ⟨d, value⟩ := Option.isSome_iff_exists.mp (decimal c List.mem_cons_self)
      obtain ⟨values, read, length⟩ :=
        ih (fun other member => decimal other (List.mem_cons_of_mem c member)) (.inl rfl)
      refine ⟨d :: values, ?_, congrArg Nat.succ length⟩
      simp only [groupedDigits?, value, read, Option.map_some]

/-- Digits alone are no numeral only if there are too many of them. -/
theorem int?_eq_none_of_decimal {t : Text} (decimal : ∀ c ∈ t, c.isDecimal = true)
    (nonempty : t ≠ []) : int? t = none ↔ numeralLimit < t.length := by
  have whole : t.trim CodePoint.isWhiteSpace = t :=
    Text.trim_of_none fun c member => CodePoint.not_isWhiteSpace_of_isDecimal (decimal c member)
  obtain ⟨values, read, length⟩ := groupedDigits?_of_decimal decimal (.inr nonempty)
  obtain ⟨c, rest, rfl⟩ := List.exists_cons_of_ne_nil nonempty
  obtain ⟨noMinus, noPlus⟩ := CodePoint.ne_sign_of_isDecimal (decimal c List.mem_cons_self)
  simp only [int?, whole, if_neg noMinus, if_neg noPlus]
  rw [read]
  dsimp only
  rw [length]
  split
  · next long => simp only [long]
  · next short => simp only [short, reduceCtorEq]

end Numeral

end UnitRouting

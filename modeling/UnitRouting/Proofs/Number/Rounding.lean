import UnitRouting.Number.Double

/-! # Rounding integers

Which integers round to a floating point number, and which are beyond all of them. The significand
that an integer rounds to is full, so only its exponent decides; at the largest exponent the last
half step rounds up to the infinity. -/

namespace UnitRouting

theorem twoTo_mul_twoTo (m n : Nat) : twoTo m * twoTo n = twoTo (m + n) := (Nat.pow_add 2 m n).symm

theorem twoTo_pos (n : Nat) : 0 < twoTo n := Nat.two_pow_pos n

theorem twoTo_ne_zero (n : Nat) : twoTo n ≠ 0 := Nat.ne_of_gt (twoTo_pos n)

theorem twoTo_le_twoTo {m n : Nat} (le : m ≤ n) : twoTo m ≤ twoTo n :=
  Nat.pow_le_pow_right (by decide) le

theorem twoTo_succ (n : Nat) : twoTo (n + 1) = 2 * twoTo n := Nat.pow_succ'

namespace Double

theorem roundQuotient_bounds (num den : Nat) :
    num / den ≤ roundQuotient num den ∧ roundQuotient num den ≤ num / den + 1 := by
  unfold roundQuotient
  split
  · omega
  · split <;> omega

theorem le_roundQuotient_iff {num den bound : Nat} (pos : 0 < den) (even : bound % 2 = 0)
    (large : 0 < bound) : bound ≤ roundQuotient num den ↔ (2 * bound - 1) * den ≤ 2 * num := by
  obtain ⟨below, rfl⟩ : ∃ below, bound = below + 1 := ⟨bound - 1, by omega⟩
  have whole := Nat.div_add_mod num den
  have rest := Nat.mod_lt num pos
  have bounds := roundQuotient_bounds num den
  have odd : 2 * (below + 1) - 1 = 2 * below + 1 := by omega
  rw [odd, Nat.add_mul, Nat.one_mul, Nat.mul_assoc]
  rcases Nat.lt_trichotomy (num / den) below with less | same | more
  · have room : den * (num / den) + den ≤ below * den := by
      rw [← Nat.mul_succ, Nat.mul_comm]
      exact Nat.mul_le_mul_right den less
    omega
  · rw [same] at whole bounds
    have product : den * below = below * den := Nat.mul_comm den below
    unfold roundQuotient
    rw [same]
    split
    · omega
    · split <;> omega
  · have room : below * den + den ≤ den * (num / den) := by
      rw [← Nat.succ_mul, Nat.mul_comm den]
      exact Nat.mul_le_mul_right den more
    omega

/-- The significand that a positive number rounds to, which is full. -/
def significand (n : Nat) : Nat := roundQuotient (n * twoTo (52 - n.log2)) (twoTo (n.log2 - 52))

theorem significand_bounds {n : Nat} (positive : n ≠ 0) :
    twoTo 52 ≤ significand n ∧ significand n ≤ twoTo 53 := by
  have least : twoTo n.log2 ≤ n := Nat.log2_self_le positive
  have most : n < twoTo (n.log2 + 1) := Nat.lt_log2_self
  have bounds := roundQuotient_bounds (n * twoTo (52 - n.log2)) (twoTo (n.log2 - 52))
  have low : twoTo 52 * twoTo (n.log2 - 52) ≤ n * twoTo (52 - n.log2) :=
    calc twoTo 52 * twoTo (n.log2 - 52)
        = twoTo n.log2 * twoTo (52 - n.log2) := by
          rw [twoTo_mul_twoTo, twoTo_mul_twoTo]
          congr 1
          omega
      _ ≤ n * twoTo (52 - n.log2) := Nat.mul_le_mul_right _ least
  have high : n * twoTo (52 - n.log2) < twoTo 53 * twoTo (n.log2 - 52) :=
    calc n * twoTo (52 - n.log2)
        < twoTo (n.log2 + 1) * twoTo (52 - n.log2) :=
          Nat.mul_lt_mul_of_pos_right most (twoTo_pos _)
      _ = twoTo 53 * twoTo (n.log2 - 52) := by
          rw [twoTo_mul_twoTo, twoTo_mul_twoTo]
          congr 1
          omega
  constructor
  · exact Nat.le_trans ((Nat.le_div_iff_mul_le (twoTo_pos _)).mpr low) bounds.1
  · exact Nat.le_trans bounds.2 ((Nat.div_lt_iff_lt_mul (twoTo_pos _)).mpr high)

theorem binade_one {n : Nat} (positive : n ≠ 0) : binade n 1 = n.log2 := by
  have least : twoTo n.log2 ≤ n := Nat.log2_self_le positive
  have one : Nat.log2 1 = 0 := by decide
  have whole : (-((n.log2 : Int) - (0 : Nat))).toNat = 0 := by omega
  have guess : ((n.log2 : Int) - (0 : Nat)).toNat = n.log2 := by omega
  have unit : twoTo 0 = 1 := rfl
  simp only [binade, one, whole, guess, unit, Nat.mul_one, Nat.one_mul, if_neg (Nat.not_lt.mpr least)]
  omega

/-- A positive number has the exponent of its leading digit, unless it rounds up to the next one. -/
theorem ofRatio_one (negative : Bool) {n : Nat} (positive : n ≠ 0) :
    ofRatio negative n 1 =
      if significand n = twoTo 53 then ofScaled negative (twoTo 52) ((n.log2 : Int) - 51)
      else ofScaled negative (significand n) ((n.log2 : Int) - 52) := by
  have exponent : max ((n.log2 : Int) - 52) (-1074) = (n.log2 : Int) - 52 := by omega
  have fraction : (-((n.log2 : Int) - 52)).toNat = 52 - n.log2 := by omega
  have whole : ((n.log2 : Int) - 52).toNat = n.log2 - 52 := by omega
  have next : (n.log2 : Int) - 52 + 1 = (n.log2 : Int) - 51 := by omega
  simp only [ofRatio, if_neg positive, binade_one positive, exponent, fraction, whole, next,
    Nat.one_mul]
  rfl

theorem ofScaled_eq_infinite {negative sign : Bool} {mantissa : Nat} {exponent : Int} :
    ofScaled negative mantissa exponent = .infinite sign ↔
      ¬Canonical mantissa exponent ∧ negative = sign := by
  unfold ofScaled
  split
  · next canonical => simp only [canonical, not_true_eq_false, false_and, reduceCtorEq]
  · next beyond => simp only [beyond, not_false_eq_true, true_and, infinite.injEq]

/-- The least natural number that rounds to the infinity: half a step above the largest finite
    number. -/
def overflowBound : Nat := twoTo 1024 - twoTo 970

theorem overflowBound_eq : overflowBound = (2 * twoTo 53 - 1) * twoTo 970 := by
  have split : twoTo 1024 = 2 * twoTo 53 * twoTo 970 := by
    rw [← twoTo_succ, twoTo_mul_twoTo]
  rw [overflowBound, split, Nat.sub_mul, Nat.one_mul]

theorem overflowBound_between : twoTo 1023 ≤ overflowBound ∧ overflowBound ≤ twoTo 1024 := by
  have double : twoTo 1024 = 2 * twoTo 1023 := twoTo_succ 1023
  have small : twoTo 970 ≤ twoTo 1023 := twoTo_le_twoTo (by decide)
  unfold overflowBound
  omega

theorem significand_full_iff {n : Nat} (top : n.log2 = 1023) :
    significand n = twoTo 53 ↔ overflowBound ≤ n := by
  have positive : n ≠ 0 := by
    rintro rfl
    cases top
  have bounds := significand_bounds positive
  have even : twoTo 53 % 2 = 0 := by decide
  have reached : twoTo 53 ≤ significand n ↔ (2 * twoTo 53 - 1) * twoTo 971 ≤ 2 * n := by
    have unit : twoTo 0 = 1 := rfl
    rw [significand, top, show 52 - 1023 = 0 from rfl, show 1023 - 52 = 971 from rfl, unit,
      Nat.mul_one]
    exact le_roundQuotient_iff (twoTo_pos 971) even (twoTo_pos 53)
  have doubled : (2 * twoTo 53 - 1) * twoTo 971 = 2 * overflowBound := by
    rw [twoTo_succ 970, overflowBound_eq, Nat.mul_left_comm]
  rw [doubled] at reached
  omega

/-- The bound is passed at the exponent beyond the largest one, and at the largest one if the
    significand rounds up. -/
theorem overflowBound_le_iff (n : Nat) :
    overflowBound ≤ n ↔ 1023 < n.log2 ∨ (n.log2 = 1023 ∧ significand n = twoTo 53) := by
  have between := overflowBound_between
  rcases Nat.lt_trichotomy n.log2 1023 with low | top | high
  · have less : n < twoTo 1023 := Nat.lt_of_lt_of_le Nat.lt_log2_self (twoTo_le_twoTo low)
    omega
  · rw [significand_full_iff top]
    omega
  · have positive : n ≠ 0 := by
      rintro rfl
      cases high
    have least : twoTo n.log2 ≤ n := Nat.log2_self_le positive
    have room : twoTo 1024 ≤ twoTo n.log2 := twoTo_le_twoTo high
    omega

theorem ofRatio_one_eq_infinite {n : Nat} (positive : n ≠ 0) {negative sign : Bool} :
    ofRatio negative n 1 = .infinite sign ↔ overflowBound ≤ n ∧ negative = sign := by
  have bounds := significand_bounds positive
  rw [ofRatio_one negative positive, overflowBound_le_iff]
  split
  · next full =>
      have short : twoTo 52 < twoTo 53 := by decide
      rw [ofScaled_eq_infinite, Canonical]
      refine and_congr_left fun _ => ?_
      omega
  · next short =>
      rw [ofScaled_eq_infinite, Canonical]
      refine and_congr_left fun _ => ?_
      omega

/-- An integer rounds to an infinity if and only if its size reaches the bound. -/
theorem ofInt_eq_infinite {n : Int} {sign : Bool} :
    ofInt n = .infinite sign ↔ overflowBound ≤ n.natAbs ∧ decide (n < 0) = sign := by
  unfold ofInt
  rcases Nat.eq_zero_or_pos n.natAbs with none | positive
  · have unreached : ¬overflowBound ≤ n.natAbs := by
      have positive := twoTo_pos 1023
      have between := overflowBound_between
      omega
    simp only [unreached, false_and, ofRatio, if_pos none, zero, reduceCtorEq]
  · exact ofRatio_one_eq_infinite (Nat.pos_iff_ne_zero.mp positive)

end Double

end UnitRouting

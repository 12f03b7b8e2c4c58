import Mathlib.Algebra.Order.Field.Power
import Mathlib.Data.Int.Log
import Mathlib.Data.Rat.Cast.Order
import Mathlib.Data.Rat.Floor
import Mathlib.Tactic.FieldSimp
import Mathlib.Tactic.Linarith
import Mathlib.Tactic.NormNum
import Mathlib.Tactic.Positivity
import Mathlib.Tactic.Ring
import UnitRouting.Proofs.Number.Exact

/-! # Rounding rational numbers

A quotient is rounded by its value alone, and a decimal too: the tests that keep the powers small change
nothing. What differs from a floating point number by less than one part in `2 ^ 54` rounds to it. The
worst case is a full significand of nothing but one leading bit, since below it the numbers stand
twice as close as above. -/

namespace UnitRouting

@[simp, norm_cast]
theorem cast_twoTo (n : Nat) : ((twoTo n : Nat) : ℚ) = 2 ^ n := Nat.cast_pow 2 n

@[simp, norm_cast]
theorem cast_tenTo (n : Nat) : ((tenTo n : Nat) : ℚ) = 10 ^ n := Nat.cast_pow 10 n

theorem zpow_eq_div (base : ℚ) (e : Int) : base ^ e = base ^ e.toNat / base ^ (-e).toNat := by
  rcases Int.le_total 0 e with up | down
  · obtain ⟨n, rfl⟩ := Int.eq_ofNat_of_zero_le up
    have none : (-(n : Int)).toNat = 0 := by omega
    rw [none, Int.toNat_natCast, zpow_natCast, pow_zero, div_one]
  · obtain ⟨n, rfl⟩ : ∃ n : Nat, e = -n := ⟨(-e).toNat, by omega⟩
    have none : (-(n : Int)).toNat = 0 := by omega
    rw [none, Int.neg_neg, Int.toNat_natCast, zpow_neg, zpow_natCast, pow_zero, one_div]

theorem div_scaled (base : ℚ) (num den : ℚ) (e : Int) :
    num * base ^ (-e).toNat / (den * base ^ e.toNat) = num / den / base ^ e := by
  rw [zpow_eq_div base e, div_div_eq_mul_div, mul_div_mul_comm, mul_div_assoc]

namespace Double

theorem roundQuotient_eq {num den m : Nat} (positive : 0 < den)
    (near : |(num / den : ℚ) - m| < 1 / 2) : roundQuotient num den = m := by
  have unit : (0 : ℚ) < den := Nat.cast_pos.mpr positive
  obtain ⟨below, above⟩ := abs_sub_lt_iff.mp near
  have below : (num : ℚ) < (m + 1 / 2) * den := (div_lt_iff₀ unit).mp (by linarith)
  have above : (m - 1 / 2 : ℚ) * den < num := (lt_div_iff₀ unit).mp (by linarith)
  have below : 2 * num < 2 * (den * m) + den := by
    have doubled : (2 * num : ℚ) < 2 * (den * m) + den := by linarith
    exact_mod_cast doubled
  have above : 2 * (den * m) < 2 * num + den := by
    have doubled : (2 * (den * m) : ℚ) < 2 * num + den := by linarith
    exact_mod_cast doubled
  have whole := Nat.div_add_mod num den
  have rest := Nat.mod_lt num positive
  have less {a b : Nat} (scaled : den * a < den * b) : a < b := Nat.lt_of_mul_lt_mul_left scaled
  unfold roundQuotient
  split
  · have most : m < num / den + 1 := less (by rw [Nat.mul_succ]; omega)
    have least : num / den < m + 1 := less (by rw [Nat.mul_succ]; omega)
    omega
  · have least : num / den < m := less (by omega)
    have most : m < num / den + 1 + 1 := less (by rw [Nat.mul_succ, Nat.mul_succ]; omega)
    split
    · omega
    · have most : m < num / den + 1 := less (by rw [Nat.mul_succ]; omega)
      omega

theorem roundQuotient_congr {num den num' den' : Nat} (positive : 0 < den) (positive' : 0 < den')
    (same : (num / den : ℚ) = num' / den') : roundQuotient num den = roundQuotient num' den' := by
  have cross : num * den' = num' * den := by
    rw [div_eq_div_iff (by positivity) (by positivity)] at same
    exact_mod_cast same
  rw [← roundQuotient_scale positive' num den, cross, Nat.mul_comm den, roundQuotient_scale positive]

theorem scaled_lt_iff {num den : Nat} (positive : den ≠ 0) {e : Int} :
    num * twoTo (-e).toNat < den * twoTo e.toNat ↔ (num / den : ℚ) < 2 ^ e := by
  have scaled : (num / den / 2 ^ e : ℚ) < 1 ↔ (num / den : ℚ) < 2 ^ e := div_lt_one (by positivity)
  rw [← scaled, ← div_scaled, div_lt_one (by positivity)]
  norm_cast

theorem log_eq {q : ℚ} (positive : 0 < q) {e : Int} (least : 2 ^ e ≤ q) (most : q < 2 ^ (e + 1)) :
    Int.log 2 q = e := by
  have low : e ≤ Int.log 2 q := (Int.zpow_le_iff_le_log one_lt_two positive).mp (mod_cast least)
  have high : Int.log 2 q < e + 1 := (Int.lt_zpow_iff_log_lt one_lt_two positive).mp (mod_cast most)
  omega

theorem binade_eq_log {num den : Nat} (positive : num ≠ 0) (positive' : den ≠ 0) :
    binade num den = Int.log 2 (num / den : ℚ) := by
  have ratio : (0 : ℚ) < num / den := by positivity
  have least : (2 : ℚ) ^ (num.log2 : ℤ) ≤ num := by exact_mod_cast Nat.log2_self_le positive
  have most : (num : ℚ) < 2 ^ ((num.log2 : ℤ) + 1) := by exact_mod_cast Nat.lt_log2_self (n := num)
  have least' : (2 : ℚ) ^ (den.log2 : ℤ) ≤ den := by exact_mod_cast Nat.log2_self_le positive'
  have most' : (den : ℚ) < 2 ^ ((den.log2 : ℤ) + 1) := by exact_mod_cast Nat.lt_log2_self (n := den)
  have above : (num / den : ℚ) < 2 ^ ((num.log2 - den.log2 : ℤ) + 1) := by
    rw [div_lt_iff₀ (by positivity)]
    calc (num : ℚ) < 2 ^ ((num.log2 : ℤ) + 1) := most
      _ = 2 ^ ((num.log2 - den.log2 : ℤ) + 1) * 2 ^ (den.log2 : ℤ) := by
        rw [← zpow_add₀ two_ne_zero]
        congr 1
        ring
      _ ≤ 2 ^ ((num.log2 - den.log2 : ℤ) + 1) * den := by gcongr
  have below : 2 ^ ((num.log2 - den.log2 : ℤ) - 1) ≤ (num / den : ℚ) := by
    rw [le_div_iff₀ (by positivity)]
    calc (2 : ℚ) ^ ((num.log2 - den.log2 : ℤ) - 1) * den
        ≤ 2 ^ ((num.log2 - den.log2 : ℤ) - 1) * 2 ^ ((den.log2 : ℤ) + 1) := by gcongr
      _ = 2 ^ (num.log2 : ℤ) := by
        rw [← zpow_add₀ two_ne_zero]
        congr 1
        ring
      _ ≤ num := least
  unfold binade
  dsimp only
  split
  · next lower =>
      rw [scaled_lt_iff positive'] at lower
      exact (log_eq ratio below (by rwa [sub_add_cancel])).symm
  · next upper =>
      rw [scaled_lt_iff positive', not_lt] at upper
      exact (log_eq ratio upper above).symm

theorem cast_div_scaled (num den : Nat) (e : Int) :
    ((num * twoTo (-e).toNat : Nat) / (den * twoTo e.toNat : Nat) : ℚ) = num / den / 2 ^ e := by
  push_cast
  exact div_scaled 2 num den e

/-- The exponent in steps of which a positive number is rounded. -/
def stepExponent (q : ℚ) : Int := max (Int.log 2 q - 52) (-1074)

/-- The significand to which a quotient is rounded in these steps. -/
def roundedSignificand (num den : Nat) : Nat :=
  roundQuotient (num * twoTo (-stepExponent (num / den)).toNat)
    (den * twoTo (stepExponent (num / den)).toNat)

/-- A full significand may be rounded up to the next power of two. -/
theorem ofRatio_rounded (negative : Bool) {num den : Nat} (positive : num ≠ 0) (positive' : den ≠ 0) :
    ofRatio negative num den =
      if roundedSignificand num den = twoTo 53 then
        ofScaled negative (twoTo 52) (stepExponent (num / den) + 1)
      else ofScaled negative (roundedSignificand num den) (stepExponent (num / den)) := by
  simp only [ofRatio, if_neg positive, binade_eq_log positive positive']
  rfl

theorem roundedSignificand_congr {num den num' den' : Nat} (positive : den ≠ 0)
    (positive' : den' ≠ 0) (same : (num / den : ℚ) = num' / den') :
    roundedSignificand num den = roundedSignificand num' den' := by
  unfold roundedSignificand
  rw [← same]
  apply roundQuotient_congr
  · exact Nat.mul_pos (Nat.pos_of_ne_zero positive) (twoTo_pos _)
  · exact Nat.mul_pos (Nat.pos_of_ne_zero positive') (twoTo_pos _)
  · rw [cast_div_scaled, cast_div_scaled, same]

theorem ofRatio_congr (negative : Bool) {num den num' den' : Nat} (positive : den ≠ 0)
    (positive' : den' ≠ 0) (same : (num / den : ℚ) = num' / den') :
    ofRatio negative num den = ofRatio negative num' den' := by
  have zero_iff : num = 0 ↔ num' = 0 := by
    have zero : (num / den : ℚ) = 0 ↔ num = 0 := by simp [positive]
    have zero' : (num' / den' : ℚ) = 0 ↔ num' = 0 := by simp [positive']
    rw [← zero, ← zero', same]
  by_cases none : num = 0
  · rw [ofRatio, ofRatio, if_pos none, if_pos (zero_iff.mp none)]
  · have none' := mt zero_iff.mpr none
    rw [ofRatio_rounded negative none positive, ofRatio_rounded negative none' positive',
      roundedSignificand_congr positive positive' same, same]

section Near

variable {num den m : Nat} {e : Int}

/-- The significand is the natural number to which the quotient comes near in steps of its exponent. -/
theorem ofRatio_eq (negative : Bool) (positive : num ≠ 0) (positive' : den ≠ 0)
    (exponent : stepExponent (num / den) = e)
    (near : |(num / den / 2 ^ e : ℚ) - m| < 1 / 2) : ofRatio negative num den =
      if m = twoTo 53 then ofScaled negative (twoTo 52) (e + 1) else ofScaled negative m e := by
  have significand : roundedSignificand num den = m := by
    unfold roundedSignificand
    rw [exponent]
    apply roundQuotient_eq (Nat.mul_pos (Nat.pos_of_ne_zero positive') (twoTo_pos _))
    rwa [cast_div_scaled]
  rw [ofRatio_rounded negative positive positive', significand, exponent]

theorem exponent_eq {q : ℚ} (positive : 0 < q) (least : -1074 ≤ e) (high : q / 2 ^ e < 2 ^ 53)
    (low : 2 ^ 52 ≤ q / 2 ^ e ∨ e = -1074) : stepExponent q = e := by
  have step : (0 : ℚ) < 2 ^ e := by positivity
  have below : Int.log 2 q < e + 53 := by
    apply (Int.lt_zpow_iff_log_lt one_lt_two positive).mp
    rw [Nat.cast_ofNat, zpow_add₀ two_ne_zero, mul_comm]
    exact (div_lt_iff₀ step).mp high
  rcases low with full | rfl
  · have above : e + 52 ≤ Int.log 2 q := by
      apply (Int.zpow_le_iff_le_log one_lt_two positive).mp
      rw [Nat.cast_ofNat, zpow_add₀ two_ne_zero, mul_comm]
      exact (le_div_iff₀ step).mp full
    unfold stepExponent
    omega
  · unfold stepExponent
    omega

/-- What comes near to a significand of one leading bit from below. The numbers stand at half the
    distance there, so in their steps the quotient comes near to twice the significand. -/
theorem ofRatio_below (negative : Bool) (positive : num ≠ 0) (positive' : den ≠ 0)
    (canonical : Canonical (twoTo 52) e) (above : e ≠ -1074)
    (low : (num / den / 2 ^ e : ℚ) < 2 ^ 52)
    (near : |(num / den / 2 ^ e : ℚ) - 2 ^ 52| * 2 ^ 54 < 2 ^ 52) :
    ofRatio negative num den = .finite negative (twoTo 52) e canonical := by
  have least := canonical.2.1
  have quotient : (0 : ℚ) < num / den := by positivity
  have below := neg_abs_le ((num / den / 2 ^ e : ℚ) - 2 ^ 52)
  have double : (num / den / 2 ^ (e - 1) : ℚ) = 2 * (num / den / 2 ^ e) := by
    rw [zpow_sub_one₀ two_ne_zero]
    field_simp
  have exponent : stepExponent (num / den) = e - 1 := by
    apply exponent_eq quotient (by omega)
    · linarith
    · exact .inl (by linarith)
  have next : |(num / den / 2 ^ (e - 1) : ℚ) - (twoTo 53 : Nat)| < 1 / 2 := by
    rw [double, cast_twoTo, abs_sub_lt_iff]
    constructor <;> linarith
  rw [ofRatio_eq negative positive positive' exponent next, if_pos rfl, sub_add_cancel, ofScaled,
    dif_pos canonical]

/-- What differs from a floating point number by less than one part in `2 ^ 54` rounds to it. -/
theorem ofRatio_near (negative : Bool) (positive : num ≠ 0) (positive' : den ≠ 0)
    (canonical : Canonical m e)
    (near : |(num / den : ℚ) - m * 2 ^ e| * 2 ^ 54 < m * 2 ^ e) :
    ofRatio negative num den = .finite negative m e canonical := by
  have ⟨most, least, _, full⟩ := canonical
  have step : (0 : ℚ) < 2 ^ e := by positivity
  have most : (m : ℚ) ≤ 2 ^ 53 - 1 := by
    have room : (m : ℚ) + 1 ≤ (twoTo 53 : Nat) := by exact_mod_cast most
    rw [cast_twoTo] at room
    linarith
  have near : |(num / den / 2 ^ e : ℚ) - m| * 2 ^ 54 < m := by
    have split : (num / den : ℚ) - m * 2 ^ e = (num / den / 2 ^ e - m) * 2 ^ e := by field_simp
    rw [split, abs_mul, abs_of_pos step, mul_right_comm] at near
    exact lt_of_mul_lt_mul_right near step.le
  by_cases low : (2 : ℚ) ^ 52 ≤ num / den / 2 ^ e ∨ e = -1074
  · have half : |(num / den / 2 ^ e : ℚ) - m| < 1 / 2 := by linarith
    have high : (num / den / 2 ^ e : ℚ) < 2 ^ 53 := by
      have above := le_abs_self ((num / den / 2 ^ e : ℚ) - m)
      linarith
    have short : m ≠ twoTo 53 := Nat.ne_of_lt canonical.1
    have exponent := exponent_eq (by positivity) least high low
    rw [ofRatio_eq negative positive positive' exponent half, if_neg short, ofScaled,
      dif_pos canonical]
  · rw [not_or, not_le] at low
    obtain ⟨low, above⟩ := low
    have leading : m = twoTo 52 := by
      have full : twoTo 52 ≤ m := full.resolve_right above
      have below := neg_abs_le ((num / den / 2 ^ e : ℚ) - m)
      have least : (m : ℚ) < (twoTo 52 + 1 : Nat) := by
        push_cast
        linarith
      have least : m < twoTo 52 + 1 := by exact_mod_cast least
      omega
    subst leading
    rw [cast_twoTo] at near
    exact ofRatio_below negative positive positive' canonical above low near

theorem ofRatio_of_large (negative : Bool) (positive : num ≠ 0) (positive' : den ≠ 0)
    (beyond : 1024 ≤ e) (large : (2 : ℚ) ^ e ≤ num / den) :
    ofRatio negative num den = .infinite negative := by
  have quotient : (0 : ℚ) < num / den := by positivity
  have exponent : e ≤ binade num den := by
    rw [binade_eq_log positive positive']
    exact (Int.zpow_le_iff_le_log one_lt_two quotient).mp (mod_cast large)
  unfold ofRatio
  rw [if_neg positive]
  dsimp only
  split
  · exact ofScaled_eq_infinite.mpr ⟨fun ⟨_, _, most, _⟩ => by omega, rfl⟩
  · exact ofScaled_eq_infinite.mpr ⟨fun ⟨_, _, most, _⟩ => by omega, rfl⟩

theorem ofRatio_of_small (negative : Bool) (positive : num ≠ 0) (positive' : den ≠ 0)
    (small : (num / den : ℚ) < 2 ^ (-1080 : ℤ)) : ofRatio negative num den = zero negative := by
  have quotient : (0 : ℚ) < num / den := by positivity
  have tiny : (num / den / 2 ^ (-1074 : ℤ) : ℚ) < 2 ^ (-6 : ℤ) := by
    rw [div_lt_iff₀ (by positivity), ← zpow_add₀ two_ne_zero]
    exact small
  have sixth : (2 : ℚ) ^ (-6 : ℤ) = 1 / 64 := by norm_num
  rw [sixth] at tiny
  have exponent := exponent_eq quotient (Int.le_refl (-1074)) (by linarith) (.inr rfl)
  have near : |(num / den / 2 ^ (-1074 : ℤ) : ℚ) - (0 : Nat)| < 1 / 2 := by
    rw [Nat.cast_zero, sub_zero, abs_of_pos (by positivity)]
    linarith
  rw [ofRatio_eq negative positive positive' exponent near, if_neg (by decide)]
  rfl

end Near

theorem cast_decimal (digits : Nat) (exponent : Int) :
    ((digits * tenTo exponent.toNat : Nat) / (tenTo (-exponent).toNat : Nat) : ℚ) =
      digits * 10 ^ exponent := by
  push_cast
  rw [zpow_eq_div 10 exponent, mul_div_assoc]

theorem two_le_ten {e : Int} (large : 310 < e) : (2 : ℚ) ^ (1024 : ℤ) ≤ 10 ^ e :=
  calc (2 : ℚ) ^ (1024 : ℤ) ≤ 2 ^ ((93 : ℤ) * 11 + 3) := zpow_le_zpow_right₀ one_le_two (by omega)
    _ = (2 ^ (93 : ℤ)) ^ (11 : ℤ) * 2 ^ (3 : ℤ) := by rw [zpow_add₀ two_ne_zero, zpow_mul]
    _ ≤ (10 ^ (28 : ℤ)) ^ (11 : ℤ) * 10 ^ (3 : ℤ) := by gcongr <;> norm_num
    _ = 10 ^ ((28 : ℤ) * 11 + 3) := by rw [zpow_add₀ (by norm_num), zpow_mul]
    _ ≤ 10 ^ e := zpow_le_zpow_right₀ (by norm_num) (by omega)

theorem ten_le_two {e : Int} (down : e ≤ 0) : (10 : ℚ) ^ e ≤ 2 ^ (3 * e) := by
  obtain ⟨n, rfl⟩ : ∃ n : Nat, e = -n := ⟨(-e).toNat, by omega⟩
  have eight : (2 : ℚ) ^ (3 : ℤ) = 8 := by norm_num
  rw [zpow_mul, eight, zpow_neg, zpow_neg, zpow_natCast, zpow_natCast]
  apply inv_anti₀ (by positivity)
  gcongr
  norm_num

theorem two_le_decimal {digits : Nat} {exponent : Int} (positive : digits ≠ 0) (large : 310 < exponent) :
    (2 : ℚ) ^ (1024 : ℤ) ≤ digits * 10 ^ exponent := by
  have one : (1 : ℚ) ≤ digits := by exact_mod_cast Nat.pos_of_ne_zero positive
  calc (2 : ℚ) ^ (1024 : ℤ) ≤ 10 ^ exponent := two_le_ten large
    _ = 1 * 10 ^ exponent := (one_mul _).symm
    _ ≤ digits * 10 ^ exponent := by gcongr

/-- A power of ten is counted as three powers of two, so a decimal of few digits is small. -/
theorem decimal_lt_two {digits : Nat} {exponent : Int}
    (small : (digits.log2 : Int) + 1 + 3 * exponent < -1080) :
    (digits * 10 ^ exponent : ℚ) < 2 ^ (-1080 : ℤ) := by
  have most : (digits : ℚ) < 2 ^ ((digits.log2 : ℤ) + 1) := by
    exact_mod_cast Nat.lt_log2_self (n := digits)
  calc (digits * 10 ^ exponent : ℚ) < 2 ^ ((digits.log2 : ℤ) + 1) * 10 ^ exponent := by gcongr
    _ ≤ 2 ^ ((digits.log2 : ℤ) + 1) * 2 ^ (3 * exponent) := by
      gcongr
      exact ten_le_two (by omega)
    _ = 2 ^ ((digits.log2 : ℤ) + 1 + 3 * exponent) := (zpow_add₀ two_ne_zero _ _).symm
    _ ≤ 2 ^ (-1080 : ℤ) := zpow_le_zpow_right₀ one_le_two (by omega)

theorem ofDecimal_eq_ofRatio (negative : Bool) (digits : Nat) (exponent : Int) :
    ofDecimal negative digits exponent =
      ofRatio negative (digits * tenTo exponent.toNat) (tenTo (-exponent).toNat) := by
  by_cases none : digits = 0
  · rw [ofDecimal, if_pos none, none, Nat.zero_mul, ofRatio, if_pos rfl]
  · have positive : digits * tenTo exponent.toNat ≠ 0 :=
      Nat.mul_ne_zero none (tenTo_ne_zero _)
    have positive' : tenTo (-exponent).toNat ≠ 0 := tenTo_ne_zero _
    rw [ofDecimal, if_neg none]
    split
    · next large =>
        refine (ofRatio_of_large negative positive positive' (Int.le_refl 1024) ?_).symm
        rw [cast_decimal]
        exact two_le_decimal none large
    · split
      · next small =>
          refine (ofRatio_of_small negative positive positive' ?_).symm
          rw [cast_decimal]
          exact decimal_lt_two small
      · rfl

theorem ofDecimal_near (negative : Bool) {digits m : Nat} {exponent e : Int} (positive : digits ≠ 0)
    (canonical : Canonical m e)
    (near : |(digits * 10 ^ exponent : ℚ) - m * 2 ^ e| * 2 ^ 54 < m * 2 ^ e) :
    ofDecimal negative digits exponent = .finite negative m e canonical := by
  rw [← cast_decimal] at near
  rw [ofDecimal_eq_ofRatio]
  exact ofRatio_near negative (Nat.mul_ne_zero positive (tenTo_ne_zero _))
    (tenTo_ne_zero _) canonical near

theorem ofDecimal_congr (negative : Bool) {digits digits' : Nat} {exponent exponent' : Int}
    (same : (digits * 10 ^ exponent : ℚ) = digits' * 10 ^ exponent') :
    ofDecimal negative digits exponent = ofDecimal negative digits' exponent' := by
  rw [ofDecimal_eq_ofRatio, ofDecimal_eq_ofRatio]
  apply ofRatio_congr negative (tenTo_ne_zero _) (tenTo_ne_zero _)
  rw [cast_decimal, cast_decimal, same]

section Signs

variable {m : Nat} {e : Int} {canonical : Canonical m e}

theorem ofScaled_signed (negative : Bool) {mantissa : Nat} {exponent : Int}
    (rounded : ofScaled false mantissa exponent = .finite false m e canonical) :
    ofScaled negative mantissa exponent = .finite negative m e canonical := by
  unfold ofScaled at rounded ⊢
  split at rounded
  · next inside =>
      cases rounded
      rw [dif_pos inside]
  · cases rounded

theorem ofDecimal_signed (negative : Bool) {digits : Nat} {exponent : Int}
    (rounded : ofDecimal false digits exponent = .finite false m e canonical) :
    ofDecimal negative digits exponent = .finite negative m e canonical := by
  rw [ofDecimal_eq_ofRatio] at rounded ⊢
  unfold ofRatio at rounded ⊢
  dsimp only at rounded ⊢
  split at rounded
  · next none =>
      cases rounded
      rw [if_pos none]
      rfl
  · next some =>
      rw [if_neg some]
      split at rounded
      · next carried =>
          rw [if_pos carried]
          exact ofScaled_signed negative rounded
      · next plain =>
          rw [if_neg plain]
          exact ofScaled_signed negative rounded

end Signs

end Double

end UnitRouting

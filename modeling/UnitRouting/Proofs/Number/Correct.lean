import UnitRouting.Proofs.Number.Monotone

/-! # Correct rounding

A quotient is rounded to the floating point number nearest to it, and of two that are equally near to
the one with the even significand. From half a step above the largest finite number on it is rounded to
the infinity. No other number is correct: of two neighbours one has an odd significand. -/

namespace UnitRouting.Double

/-- Of the finite numbers none is nearer to `q` than this one, and if another one is as near its
    significand is even. -/
structure Nearest (q : ℚ) (m : Nat) (e : Int) : Prop where
  near : ∀ {m' : Nat} {e' : Int}, Canonical m' e' → |q - m * 2 ^ e| ≤ |q - m' * 2 ^ e'|
  even : ∀ {m' : Nat} {e' : Int}, Canonical m' e' → |q - m * 2 ^ e| = |q - m' * 2 ^ e'| →
    (m * 2 ^ e : ℚ) ≠ m' * 2 ^ e' → m % 2 = 0

/-- The number is the one to which a rational number of this sign and size is rounded. -/
inductive Rounds (negative : Bool) (size : ℚ) : Double → Prop where
  | finite {m : Nat} {e : Int} {canonical : Canonical m e} (within : size < overflowBound)
      (nearest : Nearest size m e) : Rounds negative size (.finite negative m e canonical)
  | infinite (beyond : overflowBound ≤ size) : Rounds negative size (.infinite negative)

/-- A quotient is rounded by at most a half, and by a half only to an even number. -/
theorem roundQuotient_near (num : Nat) {den : Nat} (positive : 0 < den) :
    |(num / den : ℚ) - roundQuotient num den| ≤ 1 / 2 ∧
      (|(num / den : ℚ) - roundQuotient num den| = 1 / 2 → roundQuotient num den % 2 = 0) := by
  have unit : (0 : ℚ) < den := Nat.cast_pos.mpr positive
  have whole : (num : ℚ) = den * (num / den : Nat) + (num % den : Nat) := by
    exact_mod_cast (Nat.div_add_mod num den).symm
  have quotient : (num / den : ℚ) = (num / den : Nat) + (num % den : Nat) / den := by
    rw [whole, add_div, mul_div_cancel_left₀ _ unit.ne']
  have least : (0 : ℚ) ≤ (num % den : Nat) / den := by positivity
  have most : ((num % den : Nat) / den : ℚ) < 1 := by
    rw [div_lt_one unit]
    exact_mod_cast Nat.mod_lt num positive
  have double : (2 * ((num % den : Nat) / den) : ℚ) = (2 * (num % den) : Nat) / den := by
    push_cast
    ring
  rw [quotient]
  unfold roundQuotient
  split
  · next down =>
      have below : (2 * ((num % den : Nat) / den) : ℚ) < 1 := by
        rw [double, div_lt_one unit]
        exact_mod_cast down
      rw [add_sub_cancel_left, abs_of_nonneg least]
      exact ⟨by linarith, fun half => by linarith⟩
  · split
    · next up =>
        have above : (1 : ℚ) < 2 * ((num % den : Nat) / den) := by
          rw [double, one_lt_div unit]
          exact_mod_cast up
        push_cast
        rw [add_sub_add_left_eq_sub, abs_of_neg (by linarith)]
        exact ⟨by linarith, fun half => by linarith⟩
    · next notDown notUp =>
        have half : (2 * ((num % den : Nat) / den) : ℚ) = 1 := by
          rw [double, div_eq_one_iff_eq unit.ne']
          exact_mod_cast Nat.le_antisymm (Nat.not_lt.mp notUp) (Nat.not_lt.mp notDown)
        have half : ((num % den : Nat) / den : ℚ) = 1 / 2 := by linarith
        rw [half, Nat.cast_add, add_sub_add_left_eq_sub]
        refine ⟨?_, fun _ => by omega⟩
        rcases Nat.mod_two_eq_zero_or_one (num / den) with even | odd
        · rw [even]
          norm_num
        · rw [odd]
          norm_num

theorem roundQuotient_nearest (num : Nat) {den : Nat} (positive : 0 < den) (k : Nat) :
    |(num / den : ℚ) - roundQuotient num den| ≤ |(num / den : ℚ) - k| ∧
      (|(num / den : ℚ) - roundQuotient num den| = |(num / den : ℚ) - k| →
        roundQuotient num den ≠ k → roundQuotient num den % 2 = 0) := by
  obtain ⟨near, even⟩ := roundQuotient_near num positive
  generalize roundQuotient num den = m at near even
  generalize (num / den : ℚ) = q at near even
  by_cases same : m = k
  · subst same
    exact ⟨le_refl _, fun _ other => absurd rfl other⟩
  · have apart : (1 : ℚ) ≤ |(m : ℚ) - k| := by
      have whole : (1 : ℤ) ≤ |(m : ℤ) - k| := Int.one_le_abs (by omega)
      exact_mod_cast whole
    have triangle : |(m : ℚ) - k| ≤ |q - m| + |q - k| := by
      rw [abs_sub_comm q m]
      exact abs_sub_le _ _ _
    exact ⟨by linarith, fun tie _ => even (by linarith)⟩

theorem stepExponent_bounds {q : ℚ} (positive : 0 < q) : q < 2 ^ (stepExponent q + 53) ∧
    (stepExponent q = -1074 ∨ 2 ^ (stepExponent q + 52) ≤ q) := by
  constructor
  · have most : q < 2 ^ (Int.log 2 q + 1) := mod_cast Int.lt_zpow_succ_log_self one_lt_two q
    have exponent : Int.log 2 q + 1 ≤ stepExponent q + 53 := by
      unfold stepExponent
      omega
    exact most.trans_le (zpow_le_zpow_right₀ one_le_two exponent)
  · by_cases least : stepExponent q = -1074
    · exact .inl least
    · right
      have exponent : stepExponent q + 52 = Int.log 2 q := by
        unfold stepExponent at least ⊢
        omega
      rw [exponent]
      exact mod_cast Int.zpow_log_le_self one_lt_two positive

theorem exists_multiple (m' : Nat) {e e' : Int} (finer : e ≤ e') :
    ∃ k : Nat, (m' * 2 ^ e' : ℚ) = k * 2 ^ e := by
  refine ⟨m' * twoTo (e' - e).toNat, ?_⟩
  have shift : e' = (e' - e).toNat + e := by omega
  rw [Nat.cast_mul, cast_twoTo, mul_assoc, ← zpow_natCast, ← zpow_add₀ two_ne_zero, ← shift]

theorem lt_of_finer {m' : Nat} {e e' : Int} (canonical : Canonical m' e') (finer : e' < e) :
    (m' * 2 ^ e' : ℚ) < 2 ^ (e + 52) := by
  have small : (m' : ℚ) < 2 ^ (53 : ℤ) := by
    have room : (m' : ℚ) < (twoTo 53 : Nat) := Nat.cast_lt.mpr canonical.1
    rwa [cast_twoTo] at room
  calc (m' * 2 ^ e' : ℚ) < 2 ^ (53 : ℤ) * 2 ^ e' := by gcongr
    _ = 2 ^ (53 + e') := (zpow_add₀ two_ne_zero _ _).symm
    _ ≤ 2 ^ (e + 52) := zpow_le_zpow_right₀ one_le_two (by omega)

theorem two_zpow_full (e : Int) : (2 : ℚ) ^ (e + 52) = (twoTo 52 : Nat) * 2 ^ e := by
  rw [cast_twoTo, add_comm, zpow_add₀ two_ne_zero]
  rfl

theorem abs_sub_scaled (q k : ℚ) (e : Int) : |q - k * 2 ^ e| = |q / 2 ^ e - k| * 2 ^ e := by
  have step : (0 : ℚ) < 2 ^ e := by positivity
  have split : q - k * 2 ^ e = (q / 2 ^ e - k) * 2 ^ e := by field_simp
  rw [split, abs_mul, abs_of_pos step]

/-- What is nearest on its own grid is nearest of all. A coarser grid has no other numbers, and a finer
    one has only numbers below the quotient, with one of the own grid in between. -/
theorem Nearest.of_onGrid {q : ℚ} {m : Nat} {e : Int}
    (onGrid : ∀ k : Nat, |q / 2 ^ e - m| ≤ |q / 2 ^ e - k| ∧
      (|q / 2 ^ e - m| = |q / 2 ^ e - k| → m ≠ k → m % 2 = 0))
    (full : e = -1074 ∨ 2 ^ (e + 52) ≤ q) : Nearest q m e := by
  have step : (0 : ℚ) < 2 ^ e := by positivity
  have near (k : Nat) : |q - m * 2 ^ e| ≤ |q - k * 2 ^ e| := by
    rw [abs_sub_scaled, abs_sub_scaled]
    exact mul_le_mul_of_nonneg_right (onGrid k).1 step.le
  have compare {m' : Nat} {e' : Int} (canonical : Canonical m' e') :
      (∃ k : Nat, (m' * 2 ^ e' : ℚ) = k * 2 ^ e) ∨ |q - m * 2 ^ e| < |q - m' * 2 ^ e'| := by
    rcases Int.lt_or_le e' e with finer | coarser
    · right
      have least := canonical.2.1
      have full := full.resolve_left (by omega)
      have below := lt_of_finer canonical finer
      rw [two_zpow_full] at full below
      calc |q - m * 2 ^ e| ≤ |q - (twoTo 52 : Nat) * 2 ^ e| := near (twoTo 52)
        _ < |q - m' * 2 ^ e'| := by
          rw [abs_of_nonneg (by linarith), abs_of_pos (by linarith)]
          linarith
    · exact .inl (exists_multiple m' coarser)
  constructor
  case near =>
    intro m' e' canonical
    rcases compare canonical with ⟨k, multiple⟩ | farther
    · rw [multiple]
      exact near k
    · exact farther.le
  case even =>
    intro m' e' canonical tie other
    rcases compare canonical with ⟨k, multiple⟩ | farther
    · rw [multiple, abs_sub_scaled, abs_sub_scaled] at tie
      rw [multiple] at other
      apply (onGrid k).2 (mul_right_cancel₀ step.ne' tie)
      rintro rfl
      exact other rfl
    · exact absurd tie farther.ne

theorem cast_overflowBound : (overflowBound : ℚ) = (2 ^ 53 - 1 / 2) * 2 ^ (971 : ℤ) := by
  have top : (2 : ℚ) ^ 1024 = 2 ^ 53 * 2 ^ (971 : ℤ) := by
    rw [← zpow_natCast, ← zpow_natCast, ← zpow_add₀ two_ne_zero]
    norm_num
  have half : (2 : ℚ) ^ 970 = 1 / 2 * 2 ^ (971 : ℤ) := by
    rw [← zpow_natCast, one_div, ← zpow_neg_one, ← zpow_add₀ two_ne_zero]
    norm_num
  rw [overflowBound, Nat.cast_sub (twoTo_le_twoTo (by decide)), cast_twoTo, cast_twoTo, top, half]
  ring

theorem overflowBound_zpow :
    (2 : ℚ) ^ (1023 : ℤ) ≤ overflowBound ∧ (overflowBound : ℚ) ≤ 2 ^ (1024 : ℤ) := by
  rw [zpow_ofNat, zpow_ofNat, ← cast_twoTo, ← cast_twoTo]
  exact ⟨Nat.cast_le.mpr overflowBound_between.1, Nat.cast_le.mpr overflowBound_between.2⟩

theorem full_iff_of_near {x : ℚ} {m : Nat} (near : |x - m| ≤ 1 / 2)
    (even : |x - m| = 1 / 2 → m % 2 = 0) (most : m ≤ twoTo 53) :
    2 ^ 53 - 1 / 2 ≤ x ↔ m = twoTo 53 := by
  obtain ⟨least, above⟩ := abs_le.mp near
  constructor
  · intro beyond
    by_contra short
    have last : m + 1 = twoTo 53 := by
      have room : ((twoTo 53 : Nat) : ℚ) ≤ (m + 1 : Nat) := by
        push_cast
        linarith
      have room : twoTo 53 ≤ m + 1 := Nat.cast_le.mp room
      omega
    have cast : (m : ℚ) + 1 = 2 ^ 53 := by
      rw [← cast_twoTo, ← last, Nat.cast_add, Nat.cast_one]
    have half : x - m = 1 / 2 := by linarith
    have parity := even (by rw [half, abs_of_pos (by norm_num)])
    have odd : (m + 1) % 2 = 0 := by
      rw [last]
      decide
    omega
  · rintro rfl
    rw [cast_twoTo] at least
    linarith

section Quotient

variable {num den : Nat} (positive : num ≠ 0) (unit : den ≠ 0)

include unit

theorem scaled_pos (e : Int) : 0 < den * twoTo e.toNat :=
  Nat.mul_pos (Nat.pos_of_ne_zero unit) (twoTo_pos _)

include positive

theorem nearest_rounded :
    Nearest (num / den) (roundedSignificand num den) (stepExponent (num / den)) := by
  apply Nearest.of_onGrid
  · intro k
    rw [← cast_div_scaled]
    exact roundQuotient_nearest _ (scaled_pos unit _) k
  · exact (stepExponent_bounds (by positivity)).2

/-- At the largest exponent the significand decides whether a quotient is beyond all numbers. -/
theorem overflowBound_le_quotient : (overflowBound : ℚ) ≤ num / den ↔ 971 < stepExponent (num / den) ∨
    (stepExponent (num / den) = 971 ∧ roundedSignificand num den = twoTo 53) := by
  have quotient : (0 : ℚ) < num / den := by positivity
  obtain ⟨below, full⟩ := stepExponent_bounds quotient
  rcases Int.lt_trichotomy (stepExponent (num / den)) 971 with low | top | high
  · have less : (num / den : ℚ) < overflowBound :=
      calc (num / den : ℚ) < 2 ^ (stepExponent (num / den) + 53) := below
        _ ≤ 2 ^ (1023 : ℤ) := zpow_le_zpow_right₀ one_le_two (by omega)
        _ ≤ overflowBound := overflowBound_zpow.1
    constructor
    · intro beyond
      exact absurd beyond less.not_ge
    · omega
  · have scaled : (overflowBound : ℚ) ≤ num / den ↔ 2 ^ 53 - 1 / 2 ≤ (num / den : ℚ) / 2 ^ (971 : ℤ) := by
      rw [cast_overflowBound]
      exact (le_div_iff₀ (by positivity)).symm
    have most := (roundedSignificand_bounds positive unit).1
    obtain ⟨near, even⟩ := roundQuotient_near (num * twoTo (-stepExponent (num / den)).toNat)
      (scaled_pos unit (stepExponent (num / den)))
    rw [cast_div_scaled, ← roundedSignificand, top] at near even
    rw [scaled, full_iff_of_near near even most]
    omega
  · have least : (2 : ℚ) ^ (1024 : ℤ) ≤ num / den :=
      calc (2 : ℚ) ^ (1024 : ℤ) ≤ 2 ^ (stepExponent (num / den) + 52) :=
            zpow_le_zpow_right₀ one_le_two (by omega)
        _ ≤ num / den := full.resolve_left (by omega)
    exact iff_of_true (overflowBound_zpow.2.trans least) (.inl high)

end Quotient

theorem Nearest.congr {q : ℚ} {m m' : Nat} {e e' : Int} (nearest : Nearest q m e)
    (same : (m' * 2 ^ e' : ℚ) = m * 2 ^ e) (parity : m % 2 = 0 → m' % 2 = 0) : Nearest q m' e' := by
  constructor
  case near =>
    intro n f canonical
    rw [same]
    exact nearest.near canonical
  case even =>
    intro n f canonical tie other
    rw [same] at tie other
    exact parity (nearest.even canonical tie other)

theorem rounds_ofScaled (negative : Bool) {q : ℚ} {m : Nat} {e : Int} (shaped : Shaped m e)
    (nearest : Nearest q m e) (beyond : (overflowBound : ℚ) ≤ q ↔ 971 < e) :
    Rounds negative q (ofScaled negative m e) := by
  unfold ofScaled
  split
  · next canonical => exact .finite (not_le.mp (mt beyond.mp (by have := canonical.2.2.1; omega))) nearest
  · next large =>
      apply Rounds.infinite
      apply beyond.mpr
      by_contra small
      exact large ⟨shaped.most, shaped.least, by omega, shaped.full⟩

theorem nearest_zero : Nearest 0 0 (-1074) := by
  constructor
  case near =>
    intro m' e' _
    rw [Nat.cast_zero, zero_mul, sub_zero, abs_zero]
    exact abs_nonneg _
  case even => exact fun _ _ _ => rfl

/-- Rounding is correct. -/
theorem rounds_ofRatio (negative : Bool) (num : Nat) {den : Nat} (unit : den ≠ 0) :
    Rounds negative (num / den) (ofRatio negative num den) := by
  by_cases none : num = 0
  · have positive := (twoTo_pos 1023).trans_le overflowBound_between.1
    rw [ofRatio, if_pos none, none, Nat.cast_zero, zero_div]
    exact .finite (Nat.cast_pos.mpr positive) nearest_zero
  · have nearest := nearest_rounded none unit
    have beyond := overflowBound_le_quotient none unit
    obtain ⟨most, full⟩ := roundedSignificand_bounds none unit
    have least : -1074 ≤ stepExponent (num / den) := Int.le_max_right _ _
    rw [ofRatio_rounded negative none unit]
    split
    · next carried =>
        have shaped : Shaped (twoTo 52) (stepExponent (num / den) + 1) :=
          ⟨by decide, by omega, .inl (Nat.le_refl _)⟩
        apply rounds_ofScaled negative shaped
        · apply nearest.congr
          · rw [carried, cast_twoTo, cast_twoTo, zpow_add_one₀ two_ne_zero]
            ring
          · exact fun _ => rfl
        · rw [beyond, carried]
          omega
    · next short =>
        apply rounds_ofScaled negative ⟨Nat.lt_of_le_of_ne most short, least, full⟩ nearest
        rw [beyond]
        simp only [short, and_false, or_false]

theorem succ_le_of_lt {m m' : Nat} {e e' : Int} (canonical : Canonical m e) (canonical' : Canonical m' e')
    (less : (m * 2 ^ e : ℚ) < m' * 2 ^ e') : ((m + 1 : Nat) * 2 ^ e : ℚ) ≤ m' * 2 ^ e' := by
  have step : (0 : ℚ) < 2 ^ e := by positivity
  rcases Int.lt_or_le e' e with finer | coarser
  · have full := canonical.2.2.2.resolve_right (by have := canonical'.2.1; omega)
    have small := lt_of_finer canonical' finer
    have large : (2 : ℚ) ^ (e + 52) ≤ m * 2 ^ e := by
      rw [two_zpow_full]
      gcongr
    linarith
  · obtain ⟨k, multiple⟩ := exists_multiple m' coarser
    rw [multiple] at less ⊢
    have above : m < k := by exact_mod_cast lt_of_mul_lt_mul_right less step.le
    gcongr
    exact above

theorem Canonical.eq {m m' : Nat} {e e' : Int} (canonical : Canonical m e) (canonical' : Canonical m' e')
    (same : (m * 2 ^ e : ℚ) = m' * 2 ^ e') : m = m' ∧ e = e' := by
  by_cases none : m = 0
  · have least {k : Nat} {f : Int} (zero : k = 0) (canonical : Canonical k f) : f = -1074 :=
      canonical.2.2.2.resolve_left (by rw [zero]; decide)
    have none' : m' = 0 := by
      rw [none, Nat.cast_zero, zero_mul, eq_comm, mul_eq_zero, Nat.cast_eq_zero] at same
      exact same.resolve_right (zpow_ne_zero e' two_ne_zero)
    exact ⟨none.trans none'.symm, (least none canonical).trans (least none' canonical').symm⟩
  · exact canonical.shaped.eq canonical'.shaped none same

/-- Two numbers that are as near as each other would both have even significands, with another number
    in between that is nearer. -/
theorem Nearest.not_lt {q : ℚ} {m m' : Nat} {e e' : Int} (canonical : Canonical m e)
    (canonical' : Canonical m' e') (nearest : Nearest q m e) (nearest' : Nearest q m' e') :
    ¬(m * 2 ^ e : ℚ) < m' * 2 ^ e' := by
  intro less
  have step : (0 : ℚ) < 2 ^ e := by positivity
  have tie := le_antisymm (nearest.near canonical') (nearest'.near canonical)
  have even := nearest.even canonical' tie less.ne
  have even' := nearest'.even canonical tie.symm less.ne'
  have limit : twoTo 53 % 2 = 0 := by decide
  have next : Canonical (m + 1) e :=
    ⟨by have := canonical.1; omega, canonical.2.1, canonical.2.2.1, canonical.2.2.2.imp_left (by omega)⟩
  have above : (m * 2 ^ e : ℚ) < (m + 1 : Nat) * 2 ^ e := by
    push_cast
    linarith
  have below : ((m + 1 : Nat) * 2 ^ e : ℚ) < m' * 2 ^ e' := by
    refine lt_of_le_of_ne (succ_le_of_lt canonical canonical' less) fun same => ?_
    have significands := (next.eq canonical' same).1
    omega
  have near := nearest.near next
  rcases abs_eq_abs.mp tie with same | middle
  · linarith
  · rw [abs_of_pos (by linarith)] at near
    have nearer : |q - (m + 1 : Nat) * 2 ^ e| < q - m * 2 ^ e := abs_lt.mpr ⟨by linarith, by linarith⟩
    exact absurd near nearer.not_ge

theorem Rounds.unique {negative : Bool} {size : ℚ} {x y : Double} (rounds : Rounds negative size x)
    (rounds' : Rounds negative size y) : x = y := by
  cases rounds with
  | infinite beyond =>
      cases rounds' with
      | infinite => rfl
      | finite within => exact absurd beyond within.not_ge
  | @finite m e canonical within nearest =>
      cases rounds' with
      | infinite beyond => exact absurd beyond within.not_ge
      | @finite m' e' canonical' _ nearest' =>
          have same := le_antisymm (not_lt.mp (nearest'.not_lt canonical' canonical nearest))
            (not_lt.mp (nearest.not_lt canonical canonical' nearest'))
          obtain ⟨rfl, rfl⟩ := canonical.eq canonical' same
          rfl

theorem rounds_ofDecimal (negative : Bool) (digits : Nat) (exponent : Int) :
    Rounds negative (digits * 10 ^ exponent) (ofDecimal negative digits exponent) := by
  rw [ofDecimal_eq_ofRatio, ← cast_decimal]
  exact rounds_ofRatio negative _ (tenTo_ne_zero _)

theorem rounds_ofInt (n : Nat) : Rounds false n (ofInt n) := by
  have rounds := rounds_ofRatio false n Nat.one_ne_zero
  rw [Nat.cast_one, div_one] at rounds
  exact rounds

end UnitRouting.Double

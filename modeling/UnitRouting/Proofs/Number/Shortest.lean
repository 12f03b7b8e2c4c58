import Mathlib.Data.Nat.Cast.Order.Field
import UnitRouting.Number.Shortest
import UnitRouting.Proofs.Number.Monotone

/-! # Shortest decimals read back

Whatever the search for the shortest decimal finds reads back as the number, and at the latest with
seventeen digits it finds one: the grid is fine enough then for the nearer neighbour of the number to
differ from it by less than one part in `2 ^ 54`. No decimal of fewer digits reads back: it would lie
on a grid that was searched before, beyond one of the neighbours there, and rounding is monotone. -/

namespace UnitRouting.Decimal

open Double

theorem digitCount_pos (n : Nat) : 0 < digitCount n := by
  unfold digitCount
  split <;> omega

theorem lt_tenTo_digitCount (n : Nat) : n < tenTo (digitCount n) := by
  induction n using digitCount.induct with
  | case1 n small =>
      rw [digitCount, if_pos small]
      exact small
  | case2 n large ih =>
      rw [digitCount, if_neg large, tenTo_succ]
      omega

theorem tenTo_digitCount_le {n : Nat} (positive : 0 < n) : tenTo (digitCount n - 1) ≤ n := by
  induction n using digitCount.induct with
  | case1 n small =>
      rw [digitCount, if_pos small]
      exact positive
  | case2 n large ih =>
      have front := ih (by omega)
      have count := digitCount_pos (n / 10)
      have power := tenTo_succ (digitCount (n / 10) - 1)
      rw [Nat.sub_add_cancel count] at power
      rw [digitCount, if_neg large, Nat.add_sub_cancel, power]
      omega

theorem digitCount_le {n k : Nat} (positive : 0 < k) (below : n < tenTo k) : digitCount n ≤ k := by
  by_contra more
  rcases Nat.eq_zero_or_pos n with rfl | some
  · rw [digitCount, if_pos (by decide)] at more
    exact more positive
  · have least := tenTo_digitCount_le some
    have power : tenTo k ≤ tenTo (digitCount n - 1) := tenTo_le_tenTo (by omega)
    omega

theorem decade_le {num den : Nat} (positive : num ≠ 0) (positive' : den ≠ 0) :
    (10 : ℚ) ^ decade num den ≤ num / den := by
  have unit : (0 : ℚ) < den := by positivity
  unfold decade
  split
  · next whole =>
      have quotient : 0 < num / den := Nat.div_pos whole (Nat.pos_of_ne_zero positive')
      have count := digitCount_pos (num / den)
      have exponent : (digitCount (num / den) : ℤ) - 1 = (digitCount (num / den) - 1 : Nat) := by omega
      rw [exponent, zpow_natCast, ← cast_tenTo]
      calc ((tenTo (digitCount (num / den) - 1) : Nat) : ℚ) ≤ (num / den : Nat) := by
            exact_mod_cast tenTo_digitCount_le quotient
        _ ≤ num / den := Nat.cast_div_le
  · rw [zpow_neg, zpow_natCast, inv_le_iff_one_le_mul₀ (by positivity), mul_comm, ← mul_div_assoc,
      one_le_div unit]
    have below := lt_tenTo_digitCount ((den - 1) / num)
    rw [Nat.div_lt_iff_lt_mul (Nat.pos_of_ne_zero positive)] at below
    have room : den ≤ tenTo (digitCount ((den - 1) / num)) * num := by omega
    exact_mod_cast room

/-- The value of a number as the quotient that the search starts from. -/
theorem cast_value (m : Nat) (e : Int) :
    ((m * twoTo e.toNat : Nat) / (twoTo (-e).toNat : Nat) : ℚ) = m * 2 ^ e := by
  push_cast
  rw [zpow_eq_div 2 e, mul_div_assoc]

theorem lt_decade {num den : Nat} (positive : num ≠ 0) (positive' : den ≠ 0) :
    (num / den : ℚ) < 10 ^ (decade num den + 1) := by
  have unit : (0 : ℚ) < den := by positivity
  rw [div_lt_iff₀ unit]
  unfold decade
  split
  · have below := lt_tenTo_digitCount (num / den)
    rw [Nat.div_lt_iff_lt_mul (Nat.pos_of_ne_zero positive')] at below
    rw [sub_add_cancel, zpow_natCast]
    exact_mod_cast below
  · next small =>
      have quotient : 0 < (den - 1) / num := Nat.div_pos (by omega) (Nat.pos_of_ne_zero positive)
      have count := digitCount_pos ((den - 1) / num)
      have least := tenTo_digitCount_le quotient
      rw [Nat.le_div_iff_mul_le (Nat.pos_of_ne_zero positive)] at least
      have exponent : -(digitCount ((den - 1) / num) : ℤ) + 1 =
          -((digitCount ((den - 1) / num) - 1 : Nat) : ℤ) := by omega
      rw [exponent, zpow_neg, zpow_natCast, inv_mul_eq_div, lt_div_iff₀ (by positivity), mul_comm]
      have room : tenTo (digitCount ((den - 1) / num) - 1) * num < den := by omega
      exact_mod_cast room

/-- The power of ten of the leading digit of a number. -/
def leadingExponent (m : Nat) (e : Int) : Int := decade (m * twoTo e.toNat) (twoTo (-e).toNat)

theorem leadingExponent_bounds {m : Nat} (positive : m ≠ 0) (e : Int) :
    (10 : ℚ) ^ leadingExponent m e ≤ m * 2 ^ e ∧ m * 2 ^ e < (10 : ℚ) ^ (leadingExponent m e + 1) := by
  have num : m * twoTo e.toNat ≠ 0 := Nat.mul_ne_zero positive (twoTo_ne_zero _)
  rw [← cast_value]
  exact ⟨decade_le num (twoTo_ne_zero _), lt_decade num (twoTo_ne_zero _)⟩

/-- The rational number that a decimal is. -/
def value (d : Decimal) : ℚ := d.digits * 10 ^ d.exponent

section Between

variable {d d' : Decimal} {m : Nat} {e : Int} {canonical : Canonical m e} (positive : m ≠ 0)

include positive

theorem digits_ne_zero (reads : d.toDouble = .finite false m e canonical) : d.digits ≠ 0 := by
  intro none
  rw [toDouble, ofDecimal, if_pos none] at reads
  cases reads
  exact positive rfl

theorem ofRatio_value (canonical : Canonical m e) :
    ofRatio false (m * twoTo e.toNat) (twoTo (-e).toNat) = .finite false m e canonical := by
  have num : m * twoTo e.toNat ≠ 0 := Nat.mul_ne_zero positive (twoTo_ne_zero _)
  apply ofRatio_near false num (twoTo_ne_zero _) canonical
  rw [cast_value, sub_self, abs_zero, zero_mul]
  positivity

/-- Between a decimal that reads back as a number and the number all decimals do. -/
theorem toDouble_of_between (reads : d.toDouble = .finite false m e canonical)
    (between : d.value ≤ d'.value ∧ d'.value ≤ m * 2 ^ e ∨ m * 2 ^ e ≤ d'.value ∧ d'.value ≤ d.value) :
    d'.toDouble = .finite false m e canonical := by
  have number := ofRatio_value positive canonical
  rw [toDouble, ofDecimal_eq_ofRatio] at reads ⊢
  rw [value, value, ← cast_value, ← cast_decimal, ← cast_decimal] at between
  rcases between with ⟨above, below⟩ | ⟨above, below⟩
  · exact ofRatio_of_between positive (tenTo_ne_zero _) (tenTo_ne_zero _) (twoTo_ne_zero _) reads
      number above below
  · exact ofRatio_of_between positive (twoTo_ne_zero _) (tenTo_ne_zero _) (tenTo_ne_zero _) number
      reads above below

end Between

section Grid

variable {x : Double} {num den : Nat} {exponent : Int}

/-- The greatest decimal on the grid that is not above the number. -/
def low (num den : Nat) (exponent : Int) : Decimal :=
  ⟨num * tenTo (-exponent).toNat / (den * tenTo exponent.toNat), exponent⟩

/-- The next one, which is above the number. -/
def high (num den : Nat) (exponent : Int) : Decimal := ⟨(low num den exponent).digits + 1, exponent⟩

theorem value_low (num den : Nat) (exponent : Int) :
    (low num den exponent).value = (low num den exponent).digits * 10 ^ exponent := rfl

theorem value_high (num den : Nat) (exponent : Int) :
    (high num den exponent).value = (low num den exponent).value + 10 ^ exponent := by
  simp only [value, high, low]
  push_cast
  ring

theorem cast_div_steps (num den : Nat) (exponent : Int) :
    ((num * tenTo (-exponent).toNat : Nat) / (den * tenTo exponent.toNat : Nat) : ℚ) =
      num / den / 10 ^ exponent := by
  push_cast
  exact div_scaled 10 num den exponent

theorem steps_pos (positive : den ≠ 0) (exponent : Int) : 0 < den * tenTo exponent.toNat :=
  Nat.mul_pos (Nat.pos_of_ne_zero positive) (tenTo_pos _)

theorem low_le_lt_high (num : Nat) (positive : den ≠ 0) (exponent : Int) :
    (low num den exponent).value ≤ num / den ∧ (num / den : ℚ) < (high num den exponent).value := by
  have step : (0 : ℚ) < 10 ^ exponent := by positivity
  have unit := steps_pos positive exponent
  have scaled := cast_div_steps num den exponent
  have next : num * tenTo (-exponent).toNat <
      (high num den exponent).digits * (den * tenTo exponent.toNat) := by
    rw [Nat.mul_comm (high num den exponent).digits]
    exact Nat.lt_mul_div_succ _ unit
  constructor
  · apply (le_div_iff₀ step).mp
    rw [← scaled]
    exact Nat.cast_div_le
  · apply (div_lt_iff₀ step).mp
    rw [← scaled, div_lt_iff₀ (Nat.cast_pos.mpr unit)]
    exact_mod_cast next

theorem roundQuotient_cases (num den : Nat) :
    roundQuotient num den = num / den ∨ roundQuotient num den = num / den + 1 := by
  have bounds := roundQuotient_bounds num den
  omega

theorem eq_of_onGrid? {d : Decimal} (found : onGrid? x num den exponent = some d) :
    (d = low num den exponent ∨ d = high num den exponent) ∧ d.toDouble = x := by
  unfold onGrid? at found
  dsimp only at found
  split at found
  · next down up =>
      cases found
      rcases roundQuotient_cases (num * tenTo (-exponent).toNat) (den * tenTo exponent.toNat) with
        floor | ceiling
      · rw [floor]
        exact ⟨.inl rfl, of_decide_eq_true down⟩
      · rw [ceiling]
        exact ⟨.inr rfl, of_decide_eq_true up⟩
  · next down _ =>
      cases found
      exact ⟨.inl rfl, of_decide_eq_true down⟩
  · next _ up =>
      cases found
      exact ⟨.inr rfl, of_decide_eq_true up⟩
  · cases found

theorem isSome_onGrid? (reads : (low num den exponent).toDouble = x ∨
    (high num den exponent).toDouble = x) : (onGrid? x num den exponent).isSome = true := by
  unfold low high low at reads
  unfold onGrid?
  dsimp only
  rcases reads with down | up
  · rw [decide_eq_true down]
    generalize decide (toDouble _ = _) = upper
    cases upper <;> rfl
  · rw [decide_eq_true up]
    generalize decide (toDouble _ = _) = lower
    cases lower <;> rfl

end Grid

/-- The nearest decimal on a grid that is fine enough reads back. -/
theorem toDouble_of_near {m : Nat} {e : Int} {canonical : Canonical m e} {d : Decimal}
    (some : d.digits ≠ 0) (fine : (10 : ℚ) ^ d.exponent * 10 ^ 16 ≤ m * 2 ^ e)
    (near : |d.value - m * 2 ^ e| ≤ 1 / 2 * 10 ^ d.exponent) :
    d.toDouble = .finite false m e canonical := by
  have step : (0 : ℚ) < 10 ^ d.exponent := by positivity
  apply ofDecimal_near false some canonical
  calc |d.value - m * 2 ^ e| * 2 ^ 54 ≤ 1 / 2 * 10 ^ d.exponent * 2 ^ 54 := by gcongr
    _ < 10 ^ d.exponent * 10 ^ 16 := by linarith
    _ ≤ m * 2 ^ e := fine

section Neighbours

variable {num den m : Nat} {e exponent : Int} {canonical : Canonical m e} (unit : den ≠ 0)
  (number : (num / den : ℚ) = m * 2 ^ e)

include unit number

theorem neighbour_reads_of_fine (fine : (10 : ℚ) ^ exponent * 10 ^ 16 ≤ m * 2 ^ e) :
    (low num den exponent).toDouble = .finite false m e canonical ∨
      (high num den exponent).toDouble = .finite false m e canonical := by
  have step : (0 : ℚ) < 10 ^ exponent := by positivity
  obtain ⟨below, above⟩ := low_le_lt_high num unit exponent
  have apart := value_high num den exponent
  rw [number] at below above
  have some : (low num den exponent).digits ≠ 0 := by
    intro none
    have zero : (low num den exponent).value = 0 := by rw [value, none, Nat.cast_zero, zero_mul]
    linarith
  rcases le_total (m * 2 ^ e - (low num den exponent).value) (1 / 2 * 10 ^ exponent) with down | up
  · refine .inl (toDouble_of_near some fine ?_)
    rw [abs_of_nonpos (by linarith), neg_sub]
    exact down
  · refine .inr (toDouble_of_near (Nat.succ_ne_zero _) fine ?_)
    rw [abs_of_pos (by linarith), apart]
    change _ ≤ 1 / 2 * 10 ^ exponent
    linarith

theorem digits_low_lt {i : Nat} (below : (m * 2 ^ e : ℚ) < 10 ^ (exponent + i + 1)) :
    (low num den exponent).digits < tenTo (i + 1) := by
  have step : (0 : ℚ) < 10 ^ exponent := by positivity
  have least := (low_le_lt_high num unit exponent).1
  rw [number, value_low] at least
  have split : exponent + i + 1 = ((i + 1 : Nat) : ℤ) + exponent := by
    push_cast
    ring
  rw [split, zpow_add₀ (by norm_num), zpow_natCast] at below
  have room := lt_of_mul_lt_mul_right (least.trans_lt below) step.le
  exact_mod_cast room

theorem beyond_neighbours_of_few {i : Nat} (leading : (10 : ℚ) ^ (exponent + i) ≤ m * 2 ^ e)
    {d : Decimal} (few : d.digits < tenTo (i + 1)) :
    d.value ≤ (low num den exponent).value ∨ (high num den exponent).value ≤ d.value := by
  have step : (0 : ℚ) < 10 ^ exponent := by positivity
  have above := (low_le_lt_high num unit exponent).2
  rw [number] at above
  by_cases grid : exponent ≤ d.exponent
  · obtain ⟨k, shift⟩ : ∃ k : Nat, d.exponent = k + exponent := ⟨(d.exponent - exponent).toNat, by omega⟩
    have multiple : d.value = (d.digits * tenTo k : Nat) * 10 ^ exponent := by
      rw [value, shift, zpow_add₀ (by norm_num), zpow_natCast, ← mul_assoc]
      push_cast
      rfl
    rw [multiple]
    rcases Nat.lt_or_ge (low num den exponent).digits (d.digits * tenTo k) with less | more
    · right
      unfold value high
      gcongr
      exact less
    · left
      rw [value_low]
      gcongr
  · left
    have first : (10 : ℚ) ^ i ≤ (low num den exponent).digits := by
      rw [value_high, value_low] at above
      have room : (10 : ℚ) ^ i * 10 ^ exponent < ((low num den exponent).digits + 1) * 10 ^ exponent := by
        rw [zpow_add₀ (by norm_num), zpow_natCast, mul_comm] at leading
        calc _ ≤ _ := leading
          _ < _ := above
          _ = _ := (add_one_mul _ _).symm
      have room := lt_of_mul_lt_mul_right room step.le
      have room : tenTo i < (low num den exponent).digits + 1 := by exact_mod_cast room
      exact_mod_cast Nat.le_of_lt_succ room
    have few : (d.digits : ℚ) ≤ 10 ^ (i + 1) := by exact_mod_cast few.le
    calc d.value ≤ 10 ^ (i + 1) * 10 ^ (exponent - 1) := by
          unfold value
          gcongr
          · norm_num
          · omega
      _ = 10 ^ i * 10 ^ exponent := by
        rw [zpow_sub_one₀ (by norm_num), pow_succ]
        field_simp
      _ ≤ (low num den exponent).value := by
        rw [value_low]
        gcongr

/-- If a decimal of few digits reads back, the neighbour on its side does: it lies between the decimal
    and the number. -/
theorem neighbour_reads_of_few (positive : m ≠ 0) {i : Nat}
    (leading : (10 : ℚ) ^ (exponent + i) ≤ m * 2 ^ e) {d : Decimal} (few : d.digits < tenTo (i + 1))
    (reads : d.toDouble = .finite false m e canonical) :
    (low num den exponent).toDouble = .finite false m e canonical ∨
      (high num den exponent).toDouble = .finite false m e canonical := by
  obtain ⟨below, above⟩ := low_le_lt_high num unit exponent
  rw [number] at below above
  rcases beyond_neighbours_of_few unit number leading few with down | up
  · exact .inl (toDouble_of_between positive reads (.inl ⟨down, below⟩))
  · exact .inr (toDouble_of_between positive reads (.inr ⟨above.le, up⟩))

end Neighbours

/-- What the search finds with so many digits behind the leading one. -/
def ofDigits? (m : Nat) (e : Int) (more : Nat) : Option Decimal :=
  onGrid? (ofScaled false m e) (m * twoTo e.toNat) (twoTo (-e).toNat) (leadingExponent m e - more)

theorem exists_of_findSome?_range {α : Type} {f : Nat → Option α} {n : Nat} {a : α}
    (found : (List.range n).findSome? f = some a) : ∃ i, f i = some a ∧ ∀ j < i, f j = none := by
  induction n with
  | zero => cases found
  | succ n ih =>
      rw [List.range_succ, List.findSome?_append] at found
      cases before : (List.range n).findSome? f with
      | some b =>
          rw [before] at found
          exact ih (before.trans found)
      | none =>
          rw [before] at found
          refine ⟨n, by simpa using found, ?_⟩
          intro j below
          exact List.findSome?_eq_none_iff.mp before j (List.mem_range.mpr below)

section Search

variable {m : Nat} {e : Int}

theorem digits_le_of_ofDigits? (positive : m ≠ 0) {d : Decimal} {more : Nat}
    (found : ofDigits? m e more = some d) : d.digits ≤ tenTo (more + 1) := by
  have below := (leadingExponent_bounds positive e).2
  rw [← sub_add_cancel (leadingExponent m e) more] at below
  have low := digits_low_lt (twoTo_ne_zero _) (cast_value m e) below
  rcases (eq_of_onGrid? found).1 with down | up
  · rw [down]
    exact low.le
  · rw [up]
    exact low

variable (canonical : Canonical m e) (positive : m ≠ 0)

include canonical positive

theorem isSome_ofDigits?_of_few {d : Decimal} {more : Nat} (few : d.digits < tenTo (more + 1))
    (reads : d.toDouble = .finite false m e canonical) : (ofDigits? m e more).isSome = true := by
  apply isSome_onGrid?
  rw [ofScaled, dif_pos canonical]
  apply neighbour_reads_of_few (twoTo_ne_zero _) (cast_value m e) positive _ few reads
  rw [sub_add_cancel]
  exact (leadingExponent_bounds positive e).1

theorem isSome_ofDigits?_sixteen : (ofDigits? m e 16).isSome = true := by
  apply isSome_onGrid?
  rw [ofScaled, dif_pos canonical]
  apply neighbour_reads_of_fine (twoTo_ne_zero _) (cast_value m e)
  rw [zpow_sub₀ (by norm_num), zpow_natCast, div_mul_cancel₀ _ (by norm_num)]
  exact (leadingExponent_bounds positive e).1

/-- The shortest decimal is found with the first number of digits with which any is. -/
theorem exists_shortest : ∃ more, ofDigits? m e more = some (shortest m e) ∧
    ∀ fewer < more, ofDigits? m e fewer = none := by
  cases found : (List.range 17).findSome? (ofDigits? m e) with
  | some d =>
      have same : shortest m e = d := by
        unfold ofDigits? leadingExponent at found
        unfold shortest
        dsimp only
        rw [found]
      rw [same]
      exact exists_of_findSome?_range found
  | none =>
      have last := isSome_ofDigits?_sixteen canonical positive
      rw [List.findSome?_eq_none_iff.mp found 16 (by decide)] at last
      cases last

theorem toDouble_shortest : (shortest m e).toDouble = .finite false m e canonical := by
  obtain ⟨_, found, -⟩ := exists_shortest canonical positive
  rw [(eq_of_onGrid? found).2]
  exact dif_pos canonical

omit canonical in
theorem significant_lt {s count more : Nat} {d : Decimal} (found : ofDigits? m e more = some d)
    (significant : s % 10 ≠ 0) (size : d.digits = s * tenTo count) : s < tenTo (more + 1) := by
  have le : s ≤ s * tenTo count := Nat.le_mul_of_pos_right s (tenTo_pos count)
  have bound := digits_le_of_ofDigits? positive found
  have ne : s ≠ tenTo (more + 1) := by
    intro power
    cases eq_zero_of_significant significant (power.trans (Nat.one_mul _).symm)
  omega

theorem tenTo_le_of_reads {more : Nat} (first : ∀ fewer < more, ofDigits? m e fewer = none)
    {d : Decimal} (reads : d.toDouble = .finite false m e canonical) : tenTo more ≤ d.digits := by
  by_contra fewer
  cases more with
  | zero => exact fewer (Nat.pos_of_ne_zero (digits_ne_zero positive reads))
  | succ more =>
      have found := isSome_ofDigits?_of_few canonical positive (not_le.mp fewer) reads
      rw [first more (Nat.lt_succ_self more)] at found
      cases found

/-- No decimal of fewer digits reads back, where the zeros at the end do not count. -/
theorem shortest_fewest {s count : Nat} (significant : s % 10 ≠ 0)
    (size : (shortest m e).digits = s * tenTo count) {d : Decimal}
    (reads : d.toDouble = .finite false m e canonical) : digitCount s ≤ digitCount d.digits := by
  obtain ⟨more, found, first⟩ := exists_shortest canonical positive
  have least := (tenTo_le_of_reads canonical positive first reads).trans_lt (lt_tenTo_digitCount d.digits)
  have enough : more < digitCount d.digits := (Nat.pow_lt_pow_iff_right (by decide)).mp least
  have most := significant_lt positive found significant size
  exact (digitCount_le (Nat.succ_pos more) most).trans enough

end Search

end UnitRouting.Decimal

import Mathlib.Data.Nat.Prime.Basic
import UnitRouting.Proofs.Number.Correct
import UnitRouting.Proofs.Number.Shortest

/-! # The digits of a number

Of the decimals of fewest digits that are rounded to a number, the one nearest to it is its shortest
decimal, and the even one if two are equally near. There is only one, and the search finds it. -/

namespace UnitRouting.Decimal

open Double

theorem rounds_iff {d : Decimal} {x : Double} : Rounds false d.value x ↔ d.toDouble = x :=
  ⟨fun rounds => (rounds_ofDecimal false d.digits d.exponent).unique rounds,
    fun reads => reads ▸ rounds_ofDecimal false d.digits d.exponent⟩

section Grid

variable {num den : Nat} {exponent : Int}

theorem distance_scaled (n : Nat) (exponent : Int) (q : ℚ) :
    |(⟨n, exponent⟩ : Decimal).value - q| = |q / 10 ^ exponent - n| * 10 ^ exponent := by
  have step : (0 : ℚ) < 10 ^ exponent := by positivity
  have split : q - n * 10 ^ exponent = (q / 10 ^ exponent - n) * 10 ^ exponent := by field_simp
  rw [abs_sub_comm, value, split, abs_mul, abs_of_pos step]

theorem rounded_nearest (unit : den ≠ 0) {k : Decimal} (grid : k.exponent = exponent) :
    let r := roundQuotient (num * tenTo (-exponent).toNat) (den * tenTo exponent.toNat)
    let d : Decimal := ⟨r, exponent⟩
    |d.value - num / den| ≤ |k.value - num / den| ∧
      (|d.value - num / den| = |k.value - num / den| → d ≠ k → d.digits % 2 = 0) := by
  intro r d
  obtain ⟨digits, step⟩ := k
  obtain rfl : step = exponent := grid
  have positive : (0 : ℚ) < 10 ^ step := by positivity
  obtain ⟨near, even⟩ :=
    roundQuotient_nearest (num * tenTo (-step).toNat) (steps_pos unit step) digits
  rw [cast_div_steps] at near even
  simp only [d, distance_scaled]
  refine ⟨mul_le_mul_of_nonneg_right near positive.le, fun tie other => ?_⟩
  apply even (mul_right_cancel₀ positive.ne' tie)
  rintro rfl
  exact other rfl

/-- The search takes the nearer one of two neighbours that read back, and the even one of two that are
    equally near. -/
theorem nearest_of_onGrid? (unit : den ≠ 0) {x : Double} {d k : Decimal}
    (found : onGrid? x num den exponent = some d)
    (neighbour : k = low num den exponent ∨ k = high num den exponent) (reads : k.toDouble = x) :
    |d.value - num / den| ≤ |k.value - num / den| ∧
      (|d.value - num / den| = |k.value - num / den| → d ≠ k → d.digits % 2 = 0) := by
  have own (same : k = d) : |d.value - num / den| ≤ |k.value - num / den| ∧
      (|d.value - num / den| = |k.value - num / den| → d ≠ k → d.digits % 2 = 0) := by
    subst same
    exact ⟨le_refl _, fun _ other => absurd rfl other⟩
  unfold onGrid? at found
  dsimp only at found
  split at found
  · cases found
    apply rounded_nearest unit
    rcases neighbour with rfl | rfl <;> rfl
  · next down up =>
      cases found
      rcases neighbour with rfl | rfl
      · exact own rfl
      · exact absurd reads (of_decide_eq_false up)
  · next down up =>
      cases found
      rcases neighbour with rfl | rfl
      · exact absurd reads (of_decide_eq_false down)
      · exact own rfl
  · cases found

variable {m : Nat} {e : Int} {canonical : Canonical m e} (positive : m ≠ 0) (unit : den ≠ 0)
  (number : (num / den : ℚ) = m * 2 ^ e)

include positive unit number

/-- The neighbour on the side of a decimal that reads back does so, too, and is nearer, if it is not the
    decimal itself. -/
theorem exists_neighbour {d : Decimal} (reads : d.toDouble = .finite false m e canonical)
    (beyond : d.value ≤ (low num den exponent).value ∨ (high num den exponent).value ≤ d.value) :
    ∃ k, (k = low num den exponent ∨ k = high num den exponent) ∧
      k.toDouble = .finite false m e canonical ∧
      |k.value - num / den| ≤ |d.value - num / den| ∧
      (|k.value - num / den| = |d.value - num / den| → k.value = d.value) := by
  obtain ⟨below, above⟩ := low_le_lt_high num unit exponent
  rcases beyond with down | up
  · refine ⟨_, .inl rfl, ?_, ?_, ?_⟩
    · rw [number] at below
      exact toDouble_of_between positive reads (.inl ⟨down, below⟩)
    · rw [abs_of_nonpos (by linarith), abs_of_nonpos (by linarith)]
      linarith
    · rw [abs_of_nonpos (by linarith), abs_of_nonpos (by linarith)]
      intro tie
      linarith
  · refine ⟨_, .inr rfl, ?_, ?_, ?_⟩
    · rw [number] at above
      exact toDouble_of_between positive reads (.inr ⟨above.le, up⟩)
    · rw [abs_of_nonneg (by linarith), abs_of_nonneg (by linarith)]
      linarith
    · rw [abs_of_nonneg (by linarith), abs_of_nonneg (by linarith)]
      intro tie
      linarith

end Grid

theorem not_five_dvd_twoTo (n : Nat) : ¬5 ∣ twoTo n := by
  intro divides
  have two := Nat.Prime.dvd_of_dvd_pow Nat.prime_five divides
  revert two
  decide

section Carry

variable {d d' : Decimal} {m : Nat} {e : Int} {canonical : Canonical m e} (positive : m ≠ 0)

include positive

theorem eq_of_between (reads : d.toDouble = .finite false m e canonical)
    (reads' : d'.toDouble = .finite false m e canonical) {m' : Nat} {e' : Int}
    (canonical' : Canonical m' e') (positive' : m' ≠ 0) (least : d.value ≤ m' * 2 ^ e')
    (most : (m' * 2 ^ e' : ℚ) ≤ d'.value) : m' = m ∧ e' = e := by
  rw [toDouble, ofDecimal_eq_ofRatio] at reads reads'
  rw [value, ← cast_decimal, ← cast_value] at least
  rw [value, ← cast_decimal, ← cast_value] at most
  have same := ofRatio_of_between positive (tenTo_ne_zero _) (twoTo_ne_zero _) (tenTo_ne_zero _) reads
    reads' least most
  rw [ofRatio_value positive' canonical'] at same
  cases same
  exact ⟨rfl, rfl⟩

omit positive in
theorem exists_next (canonical : Canonical m e) (full : twoTo 52 ≤ m) :
    ∃ m', Canonical m' e ∧ (m' = m + 1 ∨ m' + 1 = m) := by
  have double : twoTo 53 = 2 * twoTo 52 := twoTo_succ 52
  have some : 1 < twoTo 52 := by decide
  obtain ⟨most, least, top, -⟩ := canonical
  by_cases last : m + 1 = twoTo 53
  · exact ⟨m - 1, ⟨by omega, least, top, .inl (by omega)⟩, .inr (by omega)⟩
  · exact ⟨m + 1, ⟨by omega, least, top, .inl (by omega)⟩, .inl rfl⟩

omit positive in
/-- A fraction of a power of two has no denominator that five divides. -/
theorem least_ne_half {grid : Int} (canonical : Canonical m (-1074)) :
    (m * 2 ^ (-1074 : ℤ) : ℚ) ≠ 19 / 2 * 10 ^ grid := by
  intro half
  have small : (m * 2 ^ (-1074 : ℤ) : ℚ) < 1 := by
    have room : (m : ℚ) < 2 ^ 53 := by
      rw [← cast_twoTo]
      exact_mod_cast canonical.1
    rw [zpow_neg, mul_inv_lt_iff₀ (by positivity), one_mul, zpow_ofNat]
    exact room.trans (pow_lt_pow_right₀ one_lt_two (by decide))
  have below : grid < 0 := by
    by_contra above
    have one : (1 : ℚ) ≤ 10 ^ grid := one_le_zpow₀ (by norm_num) (not_lt.mp above)
    linarith
  obtain ⟨j, rfl⟩ : ∃ j : Nat, grid = -((j + 1 : Nat) : ℤ) := ⟨(-grid - 1).toNat, by omega⟩
  have whole : m * 2 * tenTo (j + 1) = 19 * twoTo 1074 := by
    rw [zpow_neg, zpow_neg, zpow_natCast, zpow_ofNat, ← div_eq_mul_inv, ← div_eq_mul_inv, div_div,
      div_eq_div_iff (by positivity) (by positivity), ← mul_assoc, ← cast_twoTo, ← cast_tenTo] at half
    exact_mod_cast half
  have divides : 5 ∣ 19 * twoTo 1074 := by
    rw [← whole]
    exact Nat.dvd_mul_left_of_dvd (dvd_pow (by decide) (Nat.succ_ne_zero j)) _
  rcases (Nat.Prime.dvd_mul Nat.prime_five).mp divides with factor | power
  · revert factor
    decide
  · exact not_five_dvd_twoTo _ power

/-- No number lies halfway between nine and ten of a power of ten if both are rounded to it. With a full
    significand it has a neighbour that is nearer, and the least numbers are no such fractions. -/
theorem no_tie_of_nine_and_ten {grid : Int}
    (nine : (⟨9, grid⟩ : Decimal).toDouble = .finite false m e canonical)
    (ten : (⟨10, grid⟩ : Decimal).toDouble = .finite false m e canonical) :
    (m * 2 ^ e : ℚ) ≠ 19 / 2 * 10 ^ grid := by
  intro half
  rcases canonical.2.2.2 with full | least
  · obtain ⟨m', canonical', next⟩ := exists_next canonical full
    have large : 19 ≤ m := (show 19 ≤ twoTo 52 by decide).trans full
    have step : (0 : ℚ) < 2 ^ e := by positivity
    have below : (18 * m : ℚ) ≤ 19 * m' := by exact_mod_cast (by omega : 18 * m ≤ 19 * m')
    have above : (19 * m' : ℚ) ≤ 20 * m := by exact_mod_cast (by omega : 19 * m' ≤ 20 * m)
    have below := mul_le_mul_of_nonneg_right below step.le
    have above := mul_le_mul_of_nonneg_right above step.le
    have other := eq_of_between positive nine ten canonical' (by omega)
      (by simp only [value, Nat.cast_ofNat]; linarith) (by simp only [value, Nat.cast_ofNat]; linarith)
    omega
  · subst least
    exact least_ne_half canonical half

end Carry

/-- How far a decimal is from a number. -/
def distance (d : Decimal) (m : Nat) (e : Int) : ℚ := |d.value - m * 2 ^ e|

/-- The decimal of the number: none of fewer digits is rounded to the number, of those with as many it is
    the nearest, and if another one is as near it is the even one. -/
structure IsShortest (m : Nat) (e : Int) (canonical : Canonical m e) (d : Decimal) : Prop where
  significant : d.digits % 10 ≠ 0
  rounds : Rounds false d.value (.finite false m e canonical)
  fewest : ∀ d' : Decimal, Rounds false d'.value (.finite false m e canonical) →
    digitCount d.digits ≤ digitCount d'.digits
  closest : ∀ d' : Decimal, Rounds false d'.value (.finite false m e canonical) →
    digitCount d'.digits = digitCount d.digits → d.distance m e ≤ d'.distance m e
  even : ∀ d' : Decimal, Rounds false d'.value (.finite false m e canonical) →
    digitCount d'.digits = digitCount d.digits → d.distance m e = d'.distance m e →
      d.value ≠ d'.value → d.digits % 2 = 0

section Search

variable {m : Nat} {e : Int} {canonical : Canonical m e} (positive : m ≠ 0) {d d' : Decimal}
  {more : Nat}

/-- What the search finds on a grid is not farther from the number than another neighbour that reads back,
    and if it is as far it is even. -/
structure Outdoes (m : Nat) (e : Int) (canonical : Canonical m e) (d k : Decimal) : Prop where
  grid : k.exponent = d.exponent
  adjacent : k.digits = d.digits ∨ k.digits = d.digits + 1 ∨ k.digits + 1 = d.digits
  reads : k.toDouble = .finite false m e canonical
  nearer : d.distance m e ≤ k.distance m e
  even : d.distance m e = k.distance m e → d ≠ k → d.digits % 2 = 0

include positive

/-- The decimal that is found is compared with any other one by way of a neighbour. -/
theorem exists_outdone (found : ofDigits? m e more = some d)
    (reads : d'.toDouble = .finite false m e canonical) (few : d'.digits < tenTo (more + 1)) :
    ∃ k, Outdoes m e canonical d k ∧ k.distance m e ≤ d'.distance m e ∧
      (k.distance m e = d'.distance m e → k.value = d'.value) := by
  have unit := twoTo_ne_zero (-e).toNat
  have number := cast_value m e
  have leading := (leadingExponent_bounds positive e).1
  rw [← sub_add_cancel (leadingExponent m e) more] at leading
  have beyond := beyond_neighbours_of_few unit number leading few
  obtain ⟨k, neighbour, readsToo, nearer, tie⟩ := exists_neighbour positive unit number reads beyond
  have read : k.toDouble = ofScaled false m e := readsToo.trans (dif_pos canonical).symm
  obtain ⟨nearest, even⟩ := nearest_of_onGrid? unit found neighbour read
  rw [number] at nearer tie nearest even
  have own := (eq_of_onGrid? found).1
  have grid : k.exponent = d.exponent := by
    rcases neighbour with rfl | rfl <;> rcases own with rfl | rfl <;> rfl
  have adjacent : k.digits = d.digits ∨ k.digits = d.digits + 1 ∨ k.digits + 1 = d.digits := by
    rcases neighbour with rfl | rfl <;> rcases own with rfl | rfl <;> simp [high]
  exact ⟨k, ⟨grid, adjacent, readsToo, nearest, even⟩, nearer, tie⟩

theorem eq_ten_of_carry (found : ofDigits? m e more = some d)
    (first : ∀ fewer < more, ofDigits? m e fewer = none) {s : Nat} {grid : Int} {count : Nat}
    (significant : s % 10 ≠ 0) (size : d.digits = s * tenTo (count + 1))
    (reads : (⟨s, grid⟩ : Decimal).toDouble = .finite false m e canonical) :
    d.digits = 10 ∧ more = 0 := by
  have least : tenTo more ≤ s := tenTo_le_of_reads canonical positive first reads
  have most := digits_le_of_ofDigits? positive found
  rw [size, mul_tenTo_succ, tenTo_succ] at most
  have own := Nat.le_mul_of_pos_right s (tenTo_pos count)
  have all : s * tenTo count = s := by omega
  have same : s = tenTo more := by omega
  obtain rfl := eq_zero_of_significant significant (same.trans (Nat.one_mul _).symm)
  rw [size, mul_tenTo_succ, all, same]
  exact ⟨rfl, rfl⟩

theorem lt_value_of_ten (found : ofDigits? m e 0 = some d) (ten : d.digits = 10) :
    (m * 2 ^ e : ℚ) < d.value := by
  have number := cast_value m e
  have below := (leadingExponent_bounds positive e).2
  rw [← sub_add_cancel (leadingExponent m e) (0 : Nat)] at below
  have small := digits_low_lt (twoTo_ne_zero _) number below
  rcases (eq_of_onGrid? found).1 with rfl | rfl
  · rw [ten] at small
    exact absurd small (lt_irrefl _)
  · have above := (low_le_lt_high (m * twoTo e.toNat) (twoTo_ne_zero (-e).toNat)
      (leadingExponent m e - (0 : Nat))).2
    rwa [number] at above

/-- The decimal found with the fewest digits is even if another one of as few digits is as near. Ten is the
    exception, but it is never as near as nine. -/
theorem even_of_tie (found : ofDigits? m e more = some d)
    (first : ∀ fewer < more, ofDigits? m e fewer = none) {s count : Nat} {grid : Int}
    (significant : s % 10 ≠ 0) (size : d.digits = s * tenTo count)
    (same : (⟨s, grid⟩ : Decimal).value = d.value) (reads : d.toDouble = .finite false m e canonical)
    {k : Decimal} (outdoes : Outdoes m e canonical d k) (tie : d.distance m e = k.distance m e)
    (other : d ≠ k) : s % 2 = 0 := by
  cases count with
  | zero =>
      have all : d.digits = s := size.trans (Nat.mul_one s)
      rw [← all]
      exact outdoes.even tie other
  | succ count =>
      exfalso
      have stripped : (⟨s, grid⟩ : Decimal).toDouble = .finite false m e canonical :=
        rounds_iff.mp (same ▸ rounds_iff.mpr reads)
      obtain ⟨ten, rfl⟩ := eq_ten_of_carry positive found first significant size stripped
      have above := lt_value_of_ten positive found ten
      obtain ⟨digits, step⟩ := d
      obtain ⟨digits', step'⟩ := k
      obtain rfl : step' = step := outdoes.grid
      obtain rfl : digits = 10 := ten
      have unit : (0 : ℚ) < 10 ^ step' := by positivity
      unfold distance at tie
      rw [abs_of_pos (by linarith)] at tie
      rcases outdoes.adjacent with equal | eleven | nine
      · exact other (by rw [show digits' = 10 from equal])
      · obtain rfl : digits' = 11 := eleven
        simp only [value, Nat.cast_ofNat] at above tie
        rw [abs_of_pos (by linarith)] at tie
        linarith
      · obtain rfl : digits' = 9 := Nat.succ.inj nine
        apply no_tie_of_nine_and_ten positive outdoes.reads reads
        simp only [value, Nat.cast_ofNat] at above tie
        rcases abs_eq_abs.mp ((abs_of_pos (by linarith)).trans tie) with same | middle
        · linarith
        · linarith

/-- The decimal that is found, without the zeros at the end, is the shortest one. -/
theorem isShortest_of_shortest (canonical : Canonical m e) {s count : Nat} {grid : Int}
    (significant : s % 10 ≠ 0) (size : (shortest m e).digits = s * tenTo count)
    (same : (⟨s, grid⟩ : Decimal).value = (shortest m e).value) :
    IsShortest m e canonical ⟨s, grid⟩ := by
  have reads := toDouble_shortest canonical positive
  obtain ⟨more, found, first⟩ := exists_shortest canonical positive
  have most := significant_lt positive found significant size
  have distance : (⟨s, grid⟩ : Decimal).distance m e = (shortest m e).distance m e := by
    rw [Decimal.distance, same, Decimal.distance]
  have few {d' : Decimal} (count : digitCount d'.digits = digitCount s) :
      d'.digits < tenTo (more + 1) :=
    (lt_tenTo_digitCount _).trans_le (tenTo_le_tenTo (count ▸ digitCount_le (Nat.succ_pos more) most))
  constructor
  case significant => exact significant
  case rounds =>
    rw [same]
    exact rounds_iff.mpr reads
  case fewest =>
    intro d' rounds
    exact shortest_fewest canonical positive significant size (rounds_iff.mp rounds)
  case closest =>
    intro d' rounds count
    obtain ⟨k, outdoes, nearer, -⟩ := exists_outdone positive found (rounds_iff.mp rounds) (few count)
    rw [distance]
    exact outdoes.nearer.trans nearer
  case even =>
    intro d' rounds count tie other
    obtain ⟨k, outdoes, nearer, there⟩ := exists_outdone positive found (rounds_iff.mp rounds) (few count)
    rw [distance] at tie
    rw [same] at other
    have near := le_antisymm outdoes.nearer (nearer.trans tie.ge)
    have place := there (near.symm.trans tie)
    refine even_of_tie positive found first significant size same reads outdoes near ?_
    rintro rfl
    exact other place

end Search

theorem digitCount_mono {n k : Nat} (le : n ≤ k) : digitCount n ≤ digitCount k :=
  digitCount_le (digitCount_pos k) (le.trans_lt (lt_tenTo_digitCount k))

theorem digitCount_tenTo (n : Nat) : digitCount (tenTo n) = n + 1 := by
  have most : tenTo n < tenTo (n + 1) := by
    have positive := tenTo_pos n
    rw [tenTo_succ]
    omega
  have least : n < digitCount (tenTo n) := (Nat.pow_lt_pow_iff_right (by decide)).mp (lt_tenTo_digitCount _)
  have few := digitCount_le (Nat.succ_pos n) most
  omega

theorem value_lt_of_finer (n : Nat) {g g' : Int} (finer : g < g') :
    (n * 10 ^ g : ℚ) < tenTo (digitCount n - 1) * 10 ^ g' := by
  have step : (0 : ℚ) < 10 ^ g := by positivity
  have power : tenTo (digitCount n) = tenTo (digitCount n - 1) * 10 := by
    rw [← tenTo_succ, Nat.sub_add_cancel (digitCount_pos n)]
  calc (n * 10 ^ g : ℚ) < tenTo (digitCount n) * 10 ^ g := by
        gcongr
        exact lt_tenTo_digitCount n
    _ = tenTo (digitCount n - 1) * 10 ^ (g + 1) := by
      rw [power, zpow_add_one₀ (by norm_num)]
      push_cast
      ring
    _ ≤ tenTo (digitCount n - 1) * 10 ^ g' := by
      gcongr
      · norm_num
      · exact finer

theorem exists_zeros {d d' : Decimal} (same : d.value = d'.value) (finer : d.exponent ≤ d'.exponent) :
    ∃ count : Nat, d'.exponent = count + d.exponent ∧ d.digits = d'.digits * tenTo count := by
  obtain ⟨n, g⟩ := d
  obtain ⟨n', g'⟩ := d'
  obtain ⟨count, rfl⟩ : ∃ count : Nat, g' = count + g := ⟨(g' - g).toNat, by dsimp only at finer; omega⟩
  have step : (0 : ℚ) < 10 ^ g := by positivity
  refine ⟨count, rfl, ?_⟩
  simp only [value] at same
  rw [zpow_add₀ (by norm_num), zpow_natCast, ← mul_assoc] at same
  exact_mod_cast mul_right_cancel₀ step.ne' same

theorem eq_of_value_eq {d d' : Decimal} (significant : d.digits % 10 ≠ 0)
    (significant' : d'.digits % 10 ≠ 0) (same : d.value = d'.value) : d = d' := by
  have finer {d d' : Decimal} (significant : d.digits % 10 ≠ 0) (same : d.value = d'.value)
      (le : d.exponent ≤ d'.exponent) : d = d' := by
    obtain ⟨count, exponent, digits⟩ := exists_zeros same le
    obtain rfl := eq_zero_of_significant significant digits
    obtain ⟨n, g⟩ := d
    obtain ⟨n', g'⟩ := d'
    simp only at exponent digits
    rw [digits, exponent]
    simp [tenTo]
  rcases Int.le_total d.exponent d'.exponent with le | le
  · exact finer significant same le
  · exact (finer significant' same.symm le).symm

theorem digits_le_of_value_eq {d d' : Decimal} (significant : d.digits % 10 ≠ 0)
    (same : d.value = d'.value) : d.digits ≤ d'.digits := by
  rcases Int.le_total d'.exponent d.exponent with le | le
  · obtain ⟨count, -, digits⟩ := exists_zeros same.symm le
    rw [digits]
    exact Nat.le_mul_of_pos_right _ (tenTo_pos count)
  · obtain ⟨count, -, digits⟩ := exists_zeros same le
    rw [eq_zero_of_significant significant digits] at digits
    exact digits.le.trans (Nat.mul_one _).le

section Unique

variable {m : Nat} {e : Int} {canonical : Canonical m e} (positive : m ≠ 0) {d d' : Decimal}
  (shortest : IsShortest m e canonical d) (shortest' : IsShortest m e canonical d')

include shortest shortest'

theorem IsShortest.digitCount_eq : digitCount d.digits = digitCount d'.digits :=
  le_antisymm (shortest.fewest d' shortest'.rounds) (shortest'.fewest d shortest.rounds)

theorem IsShortest.distance_eq : d.distance m e = d'.distance m e :=
  le_antisymm (shortest.closest d' shortest'.rounds (shortest.digitCount_eq shortest').symm)
    (shortest'.closest d shortest.rounds (shortest.digitCount_eq shortest'))

include positive

/-- Between two shortest decimals there would be none of as many digits, for it would be nearer. -/
theorem IsShortest.not_between {k : Decimal} (above : d.value < k.value)
    (below : k.value < d'.value) : digitCount k.digits ≠ digitCount d.digits := by
  intro count
  have tie := shortest.distance_eq shortest'
  unfold distance at tie
  have middle : d.value - m * 2 ^ e = -(d'.value - m * 2 ^ e) :=
    (abs_eq_abs.mp tie).resolve_left (by intro same; linarith)
  have rounds : Rounds false k.value (.finite false m e canonical) := by
    rw [rounds_iff]
    rcases le_total k.value (m * 2 ^ e) with low | high
    · exact toDouble_of_between positive (rounds_iff.mp shortest.rounds) (.inl ⟨above.le, low⟩)
    · exact toDouble_of_between positive (rounds_iff.mp shortest'.rounds) (.inr ⟨high, below.le⟩)
  have near := shortest.closest k rounds count
  unfold distance at near
  rw [abs_of_neg (by linarith)] at near
  exact absurd near (abs_lt.mpr ⟨by linarith, by linarith⟩).not_ge

/-- Of two in steps of the same power of ten both would be even, with another one in between; in different
    steps a power of ten lies between them. -/
theorem IsShortest.value_le : d'.value ≤ d.value := by
  apply le_of_not_gt
  intro less
  have between {k : Decimal} (above : d.value < k.value) (below : k.value < d'.value) :=
    shortest.not_between positive shortest' above below
  have count := shortest.digitCount_eq shortest'
  have tie := shortest.distance_eq shortest'
  have even := shortest.even d' shortest'.rounds count.symm tie less.ne
  have even' := shortest'.even d shortest.rounds count tie.symm less.ne'
  have significant := shortest.significant
  have significant' := shortest'.significant
  obtain ⟨n, g⟩ := d
  obtain ⟨n', g'⟩ := d'
  simp only [value] at less between
  dsimp only at count even even' significant significant'
  have step : (0 : ℚ) < 10 ^ g := by positivity
  rcases Int.lt_trichotomy g g' with finer | rfl | coarser
  · have least := tenTo_digitCount_le (n := n') (by omega)
    have above := value_lt_of_finer n finer
    rw [count] at above
    rcases Nat.lt_or_eq_of_le least with more | power
    · have below : (tenTo (digitCount n' - 1) * 10 ^ g' : ℚ) < n' * 10 ^ g' := by gcongr
      apply between (k := ⟨tenTo (digitCount n' - 1), g'⟩) above below
      rw [digitCount_tenTo, Nat.sub_add_cancel (digitCount_pos n'), count]
    · have none := eq_zero_of_significant significant' (power.symm.trans (Nat.one_mul _).symm)
      rw [← power, none] at even'
      cases even'
  · have below : n < n' := by exact_mod_cast lt_of_mul_lt_mul_right less step.le
    have above : ((n : Nat) : ℚ) < (n + 1 : Nat) := by exact_mod_cast Nat.lt_succ_self n
    have next : ((n + 1 : Nat) : ℚ) < n' := by exact_mod_cast (by omega : n + 1 < n')
    apply between (k := ⟨n + 1, g⟩) (by gcongr) (by gcongr)
    exact le_antisymm ((digitCount_mono below).trans count.ge) (digitCount_mono (Nat.le_succ n))
  · have least := tenTo_digitCount_le (n := n) (by omega)
    have above := value_lt_of_finer n' coarser
    have below : (tenTo (digitCount n - 1) * 10 ^ g : ℚ) ≤ n * 10 ^ g := by gcongr
    rw [← count] at above
    linarith

end Unique

theorem IsShortest.unique {m : Nat} {e : Int} {canonical : Canonical m e} (positive : m ≠ 0)
    {d d' : Decimal} (shortest : IsShortest m e canonical d) (shortest' : IsShortest m e canonical d') :
    d = d' := by
  apply eq_of_value_eq shortest.significant shortest'.significant
  exact le_antisymm (shortest'.value_le positive shortest) (shortest.value_le positive shortest')

end UnitRouting.Decimal

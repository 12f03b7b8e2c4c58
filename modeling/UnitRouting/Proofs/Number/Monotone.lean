import UnitRouting.Proofs.Number.Nearest

/-! # Rounding is monotone

The larger of two quotients is not rounded to the smaller number. In steps of one exponent this is so
because the natural number nearest to a quotient is monotone; in steps of two, because the power of two
at which the larger exponent begins lies between the numbers. So whatever lies between two quotients
that are rounded to the same number is rounded to it, too. -/

namespace UnitRouting.Double

theorem roundQuotient_one (n : Nat) : roundQuotient n 1 = n := by
  simp only [roundQuotient, Nat.mod_one, Nat.div_one, Nat.mul_zero, Nat.zero_lt_one, if_true]

theorem roundQuotient_mono {num den num' den' : Nat} (positive : 0 < den) (positive' : 0 < den')
    (le : (num / den : ℚ) ≤ num' / den') : roundQuotient num den ≤ roundQuotient num' den' := by
  have cross : num * den' ≤ num' * den := by
    rw [div_le_div_iff₀ (by positivity) (by positivity)] at le
    exact_mod_cast le
  rw [← roundQuotient_scale positive' num den, ← roundQuotient_scale positive num' den',
    Nat.mul_comm den' den]
  generalize num * den' = a at cross
  generalize num' * den = b at cross
  generalize den * den' = unit
  rcases Nat.lt_or_eq_of_le (Nat.div_le_div_right (c := unit) cross) with less | same
  · calc roundQuotient a unit ≤ a / unit + 1 := (roundQuotient_bounds a unit).2
      _ ≤ b / unit := less
      _ ≤ roundQuotient b unit := (roundQuotient_bounds b unit).1
  · have whole := Nat.div_add_mod a unit
    have whole' := Nat.div_add_mod b unit
    rw [same] at whole
    unfold roundQuotient
    rw [same]
    split_ifs <;> omega

section Rounded

variable {num den num' den' : Nat}

/-- The number to which a quotient is rounded as long as it is not too large. -/
def rounded (num den : Nat) : ℚ := roundedSignificand num den * 2 ^ stepExponent (num / den)

theorem roundedSignificand_bounds (positive : num ≠ 0) (positive' : den ≠ 0) :
    roundedSignificand num den ≤ twoTo 53 ∧
      (twoTo 52 ≤ roundedSignificand num den ∨ stepExponent (num / den) = -1074) := by
  have quotient : (0 : ℚ) < num / den := by positivity
  have unit : 0 < den * twoTo (stepExponent (num / den)).toNat :=
    Nat.mul_pos (Nat.pos_of_ne_zero positive') (twoTo_pos _)
  have step : (0 : ℚ) < 2 ^ stepExponent (num / den) := by positivity
  constructor
  · rw [← roundQuotient_one (twoTo 53)]
    apply roundQuotient_mono unit Nat.one_pos
    rw [cast_div_scaled, cast_twoTo, Nat.cast_one, div_one, div_le_iff₀ step, ← zpow_natCast,
      ← zpow_add₀ two_ne_zero]
    have most : (num / den : ℚ) < 2 ^ (Int.log 2 (num / den : ℚ) + 1) :=
      mod_cast Int.lt_zpow_succ_log_self one_lt_two (num / den : ℚ)
    have exponent : Int.log 2 (num / den : ℚ) + 1 ≤ (53 : Nat) + stepExponent (num / den) := by
      unfold stepExponent
      omega
    exact most.le.trans (zpow_le_zpow_right₀ one_le_two exponent)
  · by_cases least : stepExponent (num / den) = -1074
    · exact .inr least
    · left
      rw [← roundQuotient_one (twoTo 52)]
      apply roundQuotient_mono Nat.one_pos unit
      rw [cast_div_scaled, cast_twoTo, Nat.cast_one, div_one, le_div_iff₀ step, ← zpow_natCast,
        ← zpow_add₀ two_ne_zero]
      have exponent : ((52 : Nat) : Int) + stepExponent (num / den) = Int.log 2 (num / den : ℚ) := by
        unfold stepExponent at least ⊢
        omega
      rw [exponent]
      exact mod_cast Int.zpow_log_le_self one_lt_two quotient

theorem rounded_mono (positive : num ≠ 0) (unit : den ≠ 0) (unit' : den' ≠ 0)
    (le : (num / den : ℚ) ≤ num' / den') : rounded num den ≤ rounded num' den' := by
  have quotient : (0 : ℚ) < num / den := by positivity
  have larger : num' ≠ 0 := by
    rintro rfl
    rw [Nat.cast_zero, zero_div] at le
    linarith
  have logs := Int.log_mono_right (b := 2) quotient le
  have exponents : stepExponent (num / den) ≤ stepExponent (num' / den') := by
    unfold stepExponent
    omega
  unfold rounded
  rcases exponents.lt_or_eq with less | same
  · have most := (roundedSignificand_bounds positive unit).1
    have least := (roundedSignificand_bounds larger unit').2.resolve_right (by
      unfold stepExponent at less ⊢
      omega)
    calc (roundedSignificand num den * 2 ^ stepExponent (num / den) : ℚ)
        ≤ (twoTo 53 : Nat) * 2 ^ stepExponent (num / den) := by gcongr
      _ = (twoTo 52 : Nat) * 2 ^ (stepExponent (num / den) + 1) := by
        rw [cast_twoTo, cast_twoTo, zpow_add_one₀ two_ne_zero]
        ring
      _ ≤ (twoTo 52 : Nat) * 2 ^ stepExponent (num' / den') := by
        gcongr
        · exact one_le_two
        · exact less
      _ ≤ roundedSignificand num' den' * 2 ^ stepExponent (num' / den') := by gcongr
  · rw [roundedSignificand, roundedSignificand, ← same]
    gcongr
    apply roundQuotient_mono
    · exact Nat.mul_pos (Nat.pos_of_ne_zero unit) (twoTo_pos _)
    · exact Nat.mul_pos (Nat.pos_of_ne_zero unit') (twoTo_pos _)
    · rw [cast_div_scaled, cast_div_scaled]
      gcongr

/-- A significand and an exponent in the form that those of a finite number have. The exponent may be
    too large for one. -/
structure Shaped (m : Nat) (e : Int) : Prop where
  most : m < twoTo 53
  least : -1074 ≤ e
  full : twoTo 52 ≤ m ∨ e = -1074

theorem Canonical.shaped {m : Nat} {e : Int} (canonical : Canonical m e) : Shaped m e :=
  ⟨canonical.1, canonical.2.1, canonical.2.2.2⟩

theorem Shaped.exponent {m : Nat} {e : Int} (shaped : Shaped m e) (some : m ≠ 0) :
    stepExponent (m * 2 ^ e) = e := by
  have scaled : (m * 2 ^ e / 2 ^ e : ℚ) = m := by field_simp
  apply exponent_eq (by positivity) shaped.least
  · rw [scaled]
    exact_mod_cast shaped.most
  · rw [scaled]
    exact shaped.full.imp_left fun full => by exact_mod_cast full

theorem Shaped.eq {m m' : Nat} {e e' : Int} (shaped : Shaped m e) (shaped' : Shaped m' e')
    (some : m ≠ 0) (same : (m * 2 ^ e : ℚ) = m' * 2 ^ e') : m = m' ∧ e = e' := by
  have some' : m' ≠ 0 := by
    rintro rfl
    have value : (0 : ℚ) < m * 2 ^ e := by positivity
    rw [Nat.cast_zero, zero_mul] at same
    exact value.ne' same
  have exponents : e = e' := by rw [← shaped.exponent some, same, shaped'.exponent some']
  subst exponents
  have significands : (m : ℚ) = m' := mul_right_cancel₀ (by positivity) same
  exact ⟨by exact_mod_cast significands, rfl⟩

theorem exists_scaled (positive : num ≠ 0) (positive' : den ≠ 0) : ∃ (m : Nat) (e : Int),
    ofRatio false num den = ofScaled false m e ∧ rounded num den = m * 2 ^ e ∧ Shaped m e := by
  obtain ⟨most, full⟩ := roundedSignificand_bounds positive positive'
  have least : -1074 ≤ stepExponent (num / den) := Int.le_max_right _ _
  rw [ofRatio_rounded false positive positive', rounded]
  split
  · next carried =>
      refine ⟨_, _, rfl, ?_, by decide, by omega, .inl (Nat.le_refl _)⟩
      rw [carried, cast_twoTo, cast_twoTo, zpow_add_one₀ two_ne_zero]
      ring
  · next short => exact ⟨_, _, rfl, rfl, Nat.lt_of_le_of_ne most short, least, full⟩

theorem ofRatio_eq_finite (positive : num ≠ 0) (positive' : den ≠ 0) {m : Nat} {e : Int}
    (canonical : Canonical m e) (some : m ≠ 0) :
    ofRatio false num den = .finite false m e canonical ↔ rounded num den = m * 2 ^ e := by
  obtain ⟨m', e', ratio, value, shaped⟩ := exists_scaled positive positive'
  rw [ratio, value, ofScaled]
  constructor
  · intro same
    split at same
    · cases same
      rfl
    · cases same
  · intro same
    obtain ⟨rfl, rfl⟩ := canonical.shaped.eq shaped some same.symm
    exact dif_pos canonical

/-- What lies between two quotients that are rounded to the same number is rounded to it, too. -/
theorem ofRatio_of_between {low low' high high' m : Nat} {e : Int} {canonical : Canonical m e}
    (some : m ≠ 0) (lowUnit : low' ≠ 0) (unit : den ≠ 0) (highUnit : high' ≠ 0)
    (below : ofRatio false low low' = .finite false m e canonical)
    (above : ofRatio false high high' = .finite false m e canonical)
    (least : (low / low' : ℚ) ≤ num / den) (most : (num / den : ℚ) ≤ high / high') :
    ofRatio false num den = .finite false m e canonical := by
  have nonzero {n k : Nat} (onto : ofRatio false n k = .finite false m e canonical) : n ≠ 0 := by
    rintro rfl
    cases onto
    exact some rfl
  have lowSome := nonzero below
  have positive : num ≠ 0 := by
    rintro rfl
    have value : (0 : ℚ) < low / low' := by positivity
    rw [Nat.cast_zero, zero_div] at least
    linarith
  rw [ofRatio_eq_finite positive unit canonical some]
  apply le_antisymm
  · rw [← (ofRatio_eq_finite (nonzero above) highUnit canonical some).mp above]
    exact rounded_mono positive unit highUnit most
  · rw [← (ofRatio_eq_finite lowSome lowUnit canonical some).mp below]
    exact rounded_mono lowSome lowUnit unit least

end Rounded

end UnitRouting.Double

import UnitRouting.Proofs.Number.Rounding
import UnitRouting.Proofs.Text.Digits

/-! # Integers that are not rounded

An integer that is a floating point number is not rounded, such as one of at most 53 binary digits.
The sum of two of these is rounded as little as the integers are. -/

namespace UnitRouting.Double

theorem roundQuotient_scale {c : Nat} (positive : 0 < c) (num den : Nat) :
    roundQuotient (num * c) (den * c) = roundQuotient num den := by
  have quotient : num * c / (den * c) = num / den := Nat.mul_div_mul_right num den positive
  have rest : num * c % (den * c) = num % den * c := Nat.mul_mod_mul_right c num den
  have less : 2 * (num % den * c) < den * c ↔ 2 * (num % den) < den := by
    rw [← Nat.mul_assoc]
    exact Nat.mul_lt_mul_right positive
  have more : den * c < 2 * (num % den * c) ↔ den < 2 * (num % den) := by
    rw [← Nat.mul_assoc]
    exact Nat.mul_lt_mul_right positive
  simp only [roundQuotient, quotient, rest, less, more]

theorem log2_scale {n : Nat} (positive : n ≠ 0) (s : Nat) : (n * twoTo s).log2 = n.log2 + s := by
  have least : twoTo n.log2 ≤ n := Nat.log2_self_le positive
  have most : n < twoTo (n.log2 + 1) := Nat.lt_log2_self
  have scaled : n * twoTo s ≠ 0 := Nat.mul_ne_zero positive (twoTo_ne_zero s)
  apply (Nat.log2_eq_iff scaled).mpr
  constructor
  · calc twoTo (n.log2 + s) = twoTo n.log2 * twoTo s := (twoTo_mul_twoTo _ _).symm
      _ ≤ n * twoTo s := Nat.mul_le_mul_right _ least
  · calc n * twoTo s < twoTo (n.log2 + 1) * twoTo s := Nat.mul_lt_mul_of_pos_right most (twoTo_pos s)
      _ = twoTo (n.log2 + s + 1) := by
        rw [twoTo_mul_twoTo]
        congr 1
        omega

theorem binade_scale {n : Nat} (positive : n ≠ 0) (s : Nat) :
    binade (n * twoTo s) (twoTo s) = binade n 1 := by
  have unit : (twoTo s).log2 = s := Nat.log2_two_pow
  have one : Nat.log2 1 = 0 := by decide
  have guess : (((n.log2 + s : Nat) : Int) - (s : Nat)) = (n.log2 : Int) - (0 : Nat) := by omega
  simp only [binade, log2_scale positive, unit, one, guess, Nat.mul_right_comm n (twoTo s),
    Nat.mul_comm (twoTo s) _, Nat.one_mul]
  simp only [Nat.mul_lt_mul_right (twoTo_pos s)]

theorem ofRatio_scale (negative : Bool) (n s : Nat) :
    ofRatio negative (n * twoTo s) (twoTo s) = ofRatio negative n 1 := by
  rcases Nat.eq_zero_or_pos n with rfl | positive
  · simp [ofRatio]
  · have nonzero : n ≠ 0 := Nat.ne_of_gt positive
    have scaled : n * twoTo s ≠ 0 := Nat.mul_ne_zero nonzero (twoTo_ne_zero s)
    simp only [ofRatio, if_neg nonzero, if_neg scaled, binade_scale nonzero,
      Nat.mul_right_comm n (twoTo s), Nat.mul_comm (twoTo s) _, Nat.one_mul,
      roundQuotient_scale (twoTo_pos s)]

/-- The significand loses nothing of the number. -/
def IsExact (n : Nat) : Prop := significand n * twoTo (n.log2 - 52) = n * twoTo (52 - n.log2)

theorem isExact_of_dvd {n : Nat} (divides : twoTo (n.log2 - 52) ∣ n * twoTo (52 - n.log2)) :
    IsExact n := by
  have rest := Nat.mod_eq_zero_of_dvd divides
  have whole : significand n = n * twoTo (52 - n.log2) / twoTo (n.log2 - 52) := by
    rw [significand, roundQuotient, rest, if_pos]
    exact twoTo_pos _
  rw [IsExact, whole, Nat.div_mul_cancel divides]

theorem isExact_of_short {n : Nat} (short : n.log2 ≤ 52) : IsExact n := by
  apply isExact_of_dvd
  rw [Nat.sub_eq_zero_of_le short]
  exact Nat.one_dvd _

theorem signed_mul (negative : Bool) (n unit : Nat) :
    (if negative then -((n * unit : Nat) : Int) else (n * unit : Nat)) =
      (if negative then -(n : Int) else n) * unit := by
  rw [Int.natCast_mul]
  cases negative with
  | false => rfl
  | true => exact (Int.neg_mul _ _).symm

theorem IsExact.units (negative : Bool) {n : Nat} (exact : IsExact n) :
    units negative (significand n) ((n.log2 : Int) - 52) =
      (if negative then -(n : Int) else n) * twoTo 1074 := by
  have shift : ((n.log2 : Int) - 52 + 1074).toNat = n.log2 - 52 + (1074 - (52 - n.log2)) := by omega
  have rest : 52 - n.log2 + (1074 - (52 - n.log2)) = 1074 := by omega
  rw [← signed_mul, Double.units, shift, ← twoTo_mul_twoTo, ← Nat.mul_assoc, exact, Nat.mul_assoc,
    twoTo_mul_twoTo, rest]

theorem IsExact.significand_lt {n : Nat} (exact : IsExact n) : significand n < twoTo 53 := by
  have most : n < twoTo (n.log2 + 1) := Nat.lt_log2_self
  have scaled : significand n * twoTo (n.log2 - 52) < twoTo 53 * twoTo (n.log2 - 52) :=
    calc significand n * twoTo (n.log2 - 52)
        = n * twoTo (52 - n.log2) := exact
      _ < twoTo (n.log2 + 1) * twoTo (52 - n.log2) :=
          Nat.mul_lt_mul_of_pos_right most (twoTo_pos _)
      _ = twoTo 53 * twoTo (n.log2 - 52) := by
          rw [twoTo_mul_twoTo, twoTo_mul_twoTo]
          congr 1
          omega
  exact Nat.lt_of_mul_lt_mul_right scaled

theorem IsExact.place (negative : Bool) {n : Nat} (exact : IsExact n) (within : n.log2 ≤ 1023) :
    (ofRatio negative n 1).place? = some (.ofInt (if negative then -(n : Int) else n)) := by
  rcases Nat.eq_zero_or_pos n with rfl | positive
  · have origin : (if negative then -((0 : Nat) : Int) else (0 : Nat)) = 0 := by
      cases negative <;> rfl
    have nothing : Double.units negative 0 (-1074) = 0 := by
      rw [Double.units, Nat.zero_mul]
      exact origin
    rw [ofRatio, if_pos rfl, zero, place?, nothing, origin, Place.ofInt, Int.zero_mul]
  · have nonzero : n ≠ 0 := Nat.ne_of_gt positive
    have bounds := significand_bounds nonzero
    have canonical : Canonical (significand n) ((n.log2 : Int) - 52) :=
      ⟨exact.significand_lt, by omega, by omega, .inl bounds.1⟩
    rw [ofRatio_one negative nonzero, if_neg (Nat.ne_of_lt exact.significand_lt), ofScaled,
      dif_pos canonical]
    simp only [place?, exact.units, Place.ofInt]

theorem isExact_of_units {n mantissa shift : Nat} (positive : n ≠ 0) (small : mantissa < twoTo 53)
    (same : n * twoTo 1074 = mantissa * twoTo shift) : IsExact n ∧ n.log2 + 1022 ≤ shift := by
  have nonzero : mantissa ≠ 0 := by
    rintro rfl
    rw [Nat.zero_mul] at same
    have := Nat.mul_pos (Nat.pos_of_ne_zero positive) (twoTo_pos 1074)
    omega
  have size : n.log2 + 1074 = mantissa.log2 + shift := by
    rw [← log2_scale positive, same, log2_scale nonzero]
  have digits : mantissa.log2 < 53 := (Nat.log2_lt nonzero).mpr small
  refine ⟨?_, by omega⟩
  rcases Nat.le_total n.log2 52 with short | long
  · exact isExact_of_short short
  · apply isExact_of_dvd
    have split : shift = shift - (n.log2 - 52 + 1074) + (n.log2 - 52) + 1074 := by omega
    rw [split, ← twoTo_mul_twoTo, ← twoTo_mul_twoTo, ← Nat.mul_assoc, ← Nat.mul_assoc] at same
    have factor := Nat.eq_of_mul_eq_mul_right (twoTo_pos 1074) same
    exact Nat.dvd_mul_right_of_dvd ⟨_, factor.trans (Nat.mul_comm _ _)⟩ _

theorem IsExact.place_ofInt {n : Int} (exact : IsExact n.natAbs) (within : n.natAbs.log2 ≤ 1023) :
    (ofInt n).place? = some (.ofInt n) := by
  have signed : (if decide (n < 0) then -(n.natAbs : Int) else n.natAbs) = n := by
    split
    · next below =>
        have := of_decide_eq_true below
        omega
    · next above =>
        have := of_decide_eq_false (Bool.eq_false_iff.mpr above)
        omega
  rw [ofInt, exact.place _ within, signed]

theorem place_ofInt {n : Int} (small : n.natAbs < twoTo 53) :
    (ofInt n).place? = some (.ofInt n) := by
  have short : n.natAbs.log2 ≤ 52 := by
    rcases Nat.eq_zero_or_pos n.natAbs with none | positive
    · rw [none]
      decide
    · have digits := (Nat.log2_lt (Nat.ne_of_gt positive)).mpr small
      omega
  exact (isExact_of_short short).place_ofInt (by omega)

theorem place_ofInt_of_le {n : Int} (small : n.natAbs ≤ twoTo 53) :
    (ofInt n).place? = some (.ofInt n) := by
  rcases Nat.lt_or_eq_of_le small with less | bound
  · exact place_ofInt less
  · have power : IsExact (twoTo 53) := by
      unfold IsExact
      decide +kernel
    exact IsExact.place_ofInt (bound ▸ power) (bound ▸ by decide)

/-- An integer that lies where a floating point number does is not rounded. -/
theorem place_ofInt_of_place {n : Int} {x : Double} (same : x.place? = some (.ofInt n)) :
    (ofInt n).place? = some (.ofInt n) := by
  cases x with
  | nan => cases same
  | infinite negative => cases negative <;> cases same
  | finite negative mantissa exponent canonical =>
      rcases Nat.eq_zero_or_pos n.natAbs with none | positive
      · exact place_ofInt (by rw [none]; exact twoTo_pos 53)
      · have size := congrArg Int.natAbs (Place.at.inj (Option.some.inj same))
        rw [units, natAbs_signed, Int.natAbs_mul, Int.natAbs_natCast] at size
        obtain ⟨small, -, most, -⟩ := canonical
        obtain ⟨exact, digits⟩ :=
          isExact_of_units (Nat.ne_of_gt positive) small size.symm
        exact exact.place_ofInt (by omega)

theorem Place.lt_ofInt (m n : Int) : (Place.ofInt m).lt (Place.ofInt n) = decide (m < n) := by
  have unit : (0 : Int) < twoTo 1074 := Int.natCast_pos.mpr (twoTo_pos 1074)
  simp only [Place.ofInt, Place.lt, Int.mul_lt_mul_right unit]

theorem units_of_toInt? {negative : Bool} {mantissa : Nat} {exponent : Int} {n : Int}
    (canonical : Canonical mantissa exponent)
    (whole : (finite negative mantissa exponent canonical).toInt? = some n) :
    units negative mantissa exponent = n * twoTo 1074 := by
  simp only [toInt?] at whole
  split at whole
  · next divides =>
      have size : mantissa * twoTo (exponent + 1074).toNat =
          mantissa / twoTo (-exponent).toNat * twoTo exponent.toNat * twoTo 1074 := by
        obtain ⟨-, least, -, -⟩ := canonical
        have shift : (-exponent).toNat + (exponent + 1074).toNat = exponent.toNat + 1074 := by omega
        calc mantissa * twoTo (exponent + 1074).toNat
            = mantissa / twoTo (-exponent).toNat * twoTo (-exponent).toNat *
                twoTo (exponent + 1074).toNat := by
              rw [Nat.div_mul_cancel (Nat.dvd_of_mod_eq_zero divides)]
          _ = mantissa / twoTo (-exponent).toNat * twoTo exponent.toNat * twoTo 1074 := by
              rw [Nat.mul_assoc, Nat.mul_assoc, twoTo_mul_twoTo, twoTo_mul_twoTo, shift]
      rw [units, size, ← Option.some.inj whole]
      exact signed_mul negative _ _
  · cases whole

theorem scaled_sum (n k : Int) {unit : Nat} (positive : 0 < unit) :
    (n * unit + k * unit < 0 ↔ n + k < 0) ∧
      (n * unit + k * unit).natAbs = (n + k).natAbs * unit := by
  rw [← Int.add_mul]
  constructor
  · have scaled : (n + k) * (unit : Int) < 0 * unit ↔ n + k < 0 :=
      Int.mul_lt_mul_right (Int.natCast_pos.mpr positive)
    rwa [Int.zero_mul] at scaled
  · rw [Int.natAbs_mul, Int.natAbs_natCast]

/-- The sum of a small integer and a whole number is the sum of the integers, rounded once. -/
theorem intAdd_of_small {n k : Int} {x : Double} (small : n.natAbs < twoTo 53)
    (whole : x.toInt? = some k) : intAdd n x = ofInt (n + k) := by
  have place := place_ofInt small
  cases x with
  | nan | infinite => cases whole
  | finite negative mantissa exponent canonical =>
      have addend := units_of_toInt? canonical whole
      unfold intAdd
      cases rounded : ofInt n with
      | nan =>
          rw [rounded] at place
          cases place
      | infinite negative' =>
          rw [rounded] at place
          cases negative' <;> cases place
      | finite negative' mantissa' exponent' canonical' =>
          rw [rounded] at place
          have augend : units negative' mantissa' exponent' = n * twoTo 1074 :=
            Place.at.inj (Option.some.inj place)
          obtain ⟨sign, size⟩ := scaled_sum n k (twoTo_pos 1074)
          simp only [augend, addend, sign, size, ofRatio_scale]
          rfl

end UnitRouting.Double

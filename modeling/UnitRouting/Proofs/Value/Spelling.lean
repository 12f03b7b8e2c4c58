import UnitRouting.Proofs.Number.Closest
import UnitRouting.Proofs.Value.Literal
import UnitRouting.Proofs.Value.NumberText

/-! # The texts of values

What a value is as text, apart from how the text is made: a number is the digits of its shortest decimal
with the point or an exponent at their place, a list is its items with commas between them. The loose text
of a value is this text and no other, integers of any size included, for below `2 ^ 53` an integer is its
own shortest decimal. -/

namespace UnitRouting

open Numeral

/-- An exponent with its mark and its sign. -/
def exponentMark (power : Int) : Text :=
  CodePoint.ofChar 'e' :: CodePoint.ofChar (if power < 0 then '-' else '+') :: Text.ofNat power.natAbs

/-- The texts of numbers. Both zeros are the same text. The shortest decimal of any other number is
    written without an exponent from `1e-6` to below `1e21`. -/
inductive IsNumberText : Double → Text → Prop where
  | nan : IsNumberText .nan "NaN"
  | infinite {negative : Bool} :
      IsNumberText (.infinite negative) (minus negative ++ Text.ofString "Infinity")
  | zero {negative : Bool} {e : Int} {canonical : Double.Canonical 0 e} :
      IsNumberText (.finite negative 0 e canonical) "0"
  | finite {negative : Bool} {m : Nat} {e : Int} {canonical : Double.Canonical m e} {d : Decimal}
      {t : Text} (some : m ≠ 0) (shortest : Decimal.IsShortest m e canonical d)
      (form : Layout.Form (-6) 21 [] exponentMark (Text.ofNat d.digits)
        (d.exponent + (Text.ofNat d.digits).length) t) :
      IsNumberText (.finite negative m e canonical) (minus negative ++ t)

theorem exponentMark_eq : exponentMark = Layout.plain.exponent :=
  funext fun power => (Layout.plain_exponent power).symm

theorem isNumberText_iff {x : Double} {t : Text} : IsNumberText x t ↔ t = Layout.plain.write x := by
  constructor
  · intro written
    cases written with
    | nan => rfl
    | infinite => rfl
    | @zero negative => cases negative <;> rfl
    | @finite negative m e canonical d t some shortest form =>
        obtain ⟨s, point, shortest', write⟩ := Double.exists_shortest canonical some
        obtain rfl := shortest.unique some shortest'
        rw [sub_add_cancel, exponentMark_eq] at form
        have same : t = Layout.plain.positive (Text.ofNat s) point :=
          Layout.Form.eq_positive form (Text.ofNat_ne_nil s) (by decide) (by decide)
        rw [write, same]
  · rintro rfl
    cases x with
    | nan => exact .nan
    | infinite negative => exact .infinite
    | finite negative m e canonical =>
        by_cases zero : m = 0
        · subst zero
          have text : Layout.plain.write (.finite negative 0 e canonical) = "0" := by
            cases negative <;> rfl
          rw [text]
          exact .zero
        · obtain ⟨s, point, shortest, write⟩ := Double.exists_shortest canonical zero
          rw [write]
          refine .finite zero shortest ?_
          rw [sub_add_cancel, exponentMark_eq]
          exact Layout.plain.form_ofNat s point

namespace Double

theorem exists_ofInt {n : Int} (small : n.natAbs ≤ twoTo 53) : ∃ m e, ∃ canonical : Canonical m e,
    ofInt n = .finite (decide (n < 0)) m e canonical ∧ (m * 2 ^ e : ℚ) = n.natAbs := by
  have place := place_ofInt_of_le small
  have rounds := rounds_ofRatio (decide (n < 0)) n.natAbs Nat.one_ne_zero
  change Rounds _ _ (ofInt n) at rounds
  generalize ofInt n = x at place rounds
  cases rounds with
  | infinite beyond =>
      simp only [place?] at place
      split at place <;> cases place
  | @finite m e canonical within nearest =>
      refine ⟨m, e, canonical, rfl, ?_⟩
      have least := canonical.2.1
      have size := congrArg Int.natAbs (Place.at.inj (Option.some.inj place))
      rw [units, natAbs_signed, Int.natAbs_mul, Int.natAbs_natCast] at size
      have scaled : (m * 2 ^ (e + 1074).toNat : ℚ) = n.natAbs * 2 ^ 1074 := by
        rw [← cast_twoTo, ← cast_twoTo]
        exact_mod_cast size
      have shift : ((e + 1074).toNat : ℤ) = e + (1074 : Nat) := by omega
      rw [← zpow_natCast, shift, zpow_add₀ two_ne_zero, zpow_natCast, ← mul_assoc] at scaled
      exact mul_right_cancel₀ (by positivity) scaled

/-- What is rounded to a whole number is not more than a half away from it, for the next ones are numbers,
    too. -/
theorem Nearest.near_whole {q : ℚ} {m : Nat} {e : Int} {n : Nat} (nearest : Nearest q m e)
    (value : (m * 2 ^ e : ℚ) = n) (some : 0 < n) (small : n < twoTo 53) : |q - n| ≤ 1 / 2 := by
  obtain ⟨a, f, above, -, next⟩ := exists_ofInt (n := n + 1) (by omega)
  obtain ⟨b, g, below, -, previous⟩ := exists_ofInt (n := (n - 1 : Nat)) (by omega)
  have natAbs : ((n : Int) + 1).natAbs = n + 1 := by omega
  have up := nearest.near above
  have down := nearest.near below
  rw [value, next, natAbs, Nat.cast_succ] at up
  rw [value, previous, Int.natAbs_natCast, Nat.cast_pred some] at down
  -- Squared, the distances are compared in terms of the first power only.
  rw [← sq_le_sq] at up down
  exact abs_le.mpr ⟨by linarith, by linarith⟩

end Double

namespace Decimal

theorem rounds_self {m : Nat} {e : Int} (canonical : Double.Canonical m e) (positive : m ≠ 0) :
    Double.Rounds false (m * 2 ^ e) (.finite false m e canonical) := by
  have rounds := Double.rounds_ofRatio false (m * twoTo e.toNat) (twoTo_ne_zero (-e).toNat)
  rwa [ofRatio_value positive canonical, cast_value] at rounds

theorem eq_of_near {n k : Nat} (near : |(n - k : ℚ)| ≤ 1 / 2) : n = k := by
  obtain ⟨least, most⟩ := abs_le.mp near
  have below : (n : ℚ) < (k + 1 : Nat) := by
    push_cast
    linarith
  have above : (k : ℚ) < (n + 1 : Nat) := by
    push_cast
    linarith
  rw [Nat.cast_lt] at below above
  omega

theorem value_natCast (n count : Nat) : (⟨n, count⟩ : Decimal).value = (n * tenTo count : Nat) := by
  push_cast
  rw [value, zpow_natCast]

theorem le_digits_of_near {s count : Nat} {d : Decimal} (significant : s % 10 ≠ 0)
    (near : |d.value - (s * tenTo count : Nat)| ≤ 1 / 2) : s ≤ d.digits := by
  obtain ⟨k, grid⟩ := d
  have least : s ≤ s * tenTo count := Nat.le_mul_of_pos_right s (tenTo_pos count)
  rcases Int.lt_or_le grid 0 with fraction | whole
  · have step : (10 : ℚ) ^ grid ≤ 10 ^ (-1 : ℤ) := zpow_le_zpow_right₀ (by norm_num) (by omega)
    have tenth : (k * 10 ^ grid : ℚ) ≤ k * 10 ^ (-1 : ℤ) := mul_le_mul_of_nonneg_left step k.cast_nonneg
    have below := (abs_le.mp near).1
    norm_num [value] at tenth below
    have size : (10 * (s * tenTo count : Nat) : ℚ) ≤ (k + 5 : Nat) := by
      push_cast
      linarith
    have size : 10 * (s * tenTo count) ≤ k + 5 := by exact_mod_cast size
    dsimp only
    omega
  · obtain ⟨j, rfl⟩ := Int.eq_ofNat_of_zero_le whole
    rw [value_natCast] at near
    apply digits_le_of_value_eq (d := ⟨s, count⟩) significant
    rw [value_natCast, value_natCast, eq_of_near near]

theorem ne_zero_of_value {m n : Nat} {e : Int} (value : (m * 2 ^ e : ℚ) = n) (positive : 0 < n) :
    m ≠ 0 := by
  rintro rfl
  rw [Nat.cast_zero, zero_mul] at value
  exact absurd value.symm (Nat.cast_ne_zero.mpr (Nat.ne_of_gt positive))

/-- A small whole number without its zeros is its own shortest decimal. -/
theorem isShortest_of_whole {m : Nat} {e : Int} {canonical : Double.Canonical m e} {s count : Nat}
    (significant : s % 10 ≠ 0) (value : (m * 2 ^ e : ℚ) = (s * tenTo count : Nat))
    (small : s * tenTo count < twoTo 53) : IsShortest m e canonical ⟨s, count⟩ := by
  have positive : 0 < s * tenTo count := Nat.mul_pos (by omega) (tenTo_pos count)
  have some := ne_zero_of_value value positive
  have own : (⟨s, count⟩ : Decimal).distance m e = 0 := by
    rw [distance, value_natCast, value, sub_self, abs_zero]
  constructor
  case significant => exact significant
  case rounds =>
    rw [value_natCast, ← value]
    exact rounds_self canonical some
  case fewest =>
    intro d' rounds
    cases rounds with
    | finite within nearest =>
        exact digitCount_mono (le_digits_of_near significant (nearest.near_whole value positive small))
  case closest =>
    intro d' rounds count
    rw [own]
    exact abs_nonneg _
  case even =>
    intro d' rounds count tie other
    rw [own] at tie
    have same := sub_eq_zero.mp (abs_eq_zero.mp tie.symm)
    rw [value_natCast, ← value, same] at other
    exact absurd rfl other

end Decimal

theorem ofInt_eq_minus (n : Int) : Text.ofInt n = minus (decide (n < 0)) ++ Text.ofNat n.natAbs := by
  cases n with
  | ofNat n => rfl
  | negSucc n =>
      rw [decide_eq_true (Int.negSucc_lt_zero n)]
      rfl

theorem isNumberText_ofInt {n : Int} (small : n.natAbs < twoTo 53) :
    IsNumberText (.ofInt n) (Text.ofInt n) := by
  rcases Nat.eq_zero_or_pos n.natAbs with none | positive
  · have zero : Text.ofInt 0 = "0" := Text.ofNat_of_lt (by decide)
    rw [Int.natAbs_eq_zero.mp none, zero]
    exact .zero
  obtain ⟨m, e, canonical, double, value⟩ := Double.exists_ofInt small.le
  obtain ⟨s, count, significant, size, length, -⟩ := Layout.stripped_ofNat positive
  have some := Decimal.ne_zero_of_value value positive
  rw [double, ofInt_eq_minus]
  rw [size] at value small
  refine .finite some (Decimal.isShortest_of_whole significant value small) ?_
  have most : n.natAbs < tenTo 16 := by
    rw [size]
    exact small.trans (by decide)
  have few := Text.length_ofNat_le (by decide) most
  have form : Layout.Form (-6) 21 [] exponentMark (Text.ofNat s) (count + (Text.ofNat s).length)
      (Text.ofNat s ++ zeros count ++ []) := by
    exact .whole (Int.add_comm _ _) (by omega)
  have digits : 0 < s := by omega
  rwa [List.append_nil, ← Layout.ofNat_mul_tenTo digits, ← size] at form

/-- The loose text of an integer is that of the floating point number nearest to it. -/
theorem looseInt_eq (n : Int) : looseInt n = Layout.plain.write (.ofInt n) := by
  unfold looseInt
  split
  · next small => exact isNumberText_iff.mp (isNumberText_ofInt small)
  · rfl

mutual

/-- The text of a value. -/
inductive TextOf : Value → Text → Prop where
  | undefined : TextOf .undefined "undefined"
  | null : TextOf .null "null"
  | true : TextOf (.bool true) "true"
  | false : TextOf (.bool false) "false"
  | int {n : Int} {t : Text} (written : IsNumberText (.ofInt n) t) : TextOf (.int n) t
  | float {x : Double} {t : Text} (written : IsNumberText x t) : TextOf (.float x) t
  | text {t : Text} : TextOf (.text t) t
  | list {items : List Value} {parts : List Text} (written : PartsOf items parts) :
      TextOf (.list items) (Text.join "," parts)
  | object {fields : Fields} : TextOf (.object fields) "[object Object]"

/-- The texts of items; what is nothing is left out between the commas. -/
inductive PartsOf : List Value → List Text → Prop where
  | nil : PartsOf [] []
  | nothing {item : Value} {rest : List Value} {parts : List Text} (nothing : item.isNullish = true)
      (later : PartsOf rest parts) : PartsOf (item :: rest) ([] :: parts)
  | something {item : Value} {t : Text} {rest : List Value} {parts : List Text}
      (something : item.isNullish = false) (written : TextOf item t) (later : PartsOf rest parts) :
      PartsOf (item :: rest) (t :: parts)

end

namespace Value

theorem looseItems_of_nothing {item : Value} (rest : List Value) (nothing : item.isNullish = true) :
    looseItems (item :: rest) = [] :: looseItems rest := by
  cases item <;> first | rfl | cases nothing

theorem looseItems_of_something {item : Value} (rest : List Value) (something : item.isNullish = false) :
    looseItems (item :: rest) = item.looseText :: looseItems rest := by
  cases item <;> first | rfl | cases something

end Value

mutual

theorem textOf_looseText (v : Value) : TextOf v v.looseText := by
  cases v with
  | undefined => exact .undefined
  | null => exact .null
  | bool b => cases b with
    | true => exact .true
    | false => exact .false
  | int n => exact .int (isNumberText_iff.mpr (looseInt_eq n))
  | float x => exact .float (isNumberText_iff.mpr rfl)
  | text t => exact .text
  | list items => exact .list (partsOf_looseItems items)
  | object fields => exact .object

theorem partsOf_looseItems (items : List Value) : PartsOf items (Value.looseItems items) := by
  cases items with
  | nil => exact .nil
  | cons item rest =>
      cases given : item.isNullish with
      | true =>
          rw [Value.looseItems_of_nothing rest given]
          exact .nothing given (partsOf_looseItems rest)
      | false =>
          rw [Value.looseItems_of_something rest given]
          exact .something given (textOf_looseText item) (partsOf_looseItems rest)

end

mutual

theorem TextOf.eq_looseText {v : Value} {t : Text} (written : TextOf v t) : t = v.looseText := by
  cases written with
  | undefined | null | true | false | text | object => rfl
  | int written => exact (isNumberText_iff.mp written).trans (looseInt_eq _).symm
  | float written => exact isNumberText_iff.mp written
  | list written => exact congrArg (Text.join ",") written.eq_looseItems

theorem PartsOf.eq_looseItems {items : List Value} {parts : List Text} (written : PartsOf items parts) :
    parts = Value.looseItems items := by
  cases written with
  | nil => rfl
  | nothing given later => rw [Value.looseItems_of_nothing _ given, later.eq_looseItems]
  | something given written later =>
      rw [Value.looseItems_of_something _ given, written.eq_looseText, later.eq_looseItems]

end

/-- A value has one text. -/
theorem textOf_iff {v : Value} {t : Text} : TextOf v t ↔ t = v.looseText :=
  ⟨TextOf.eq_looseText, fun same => same ▸ textOf_looseText v⟩

end UnitRouting

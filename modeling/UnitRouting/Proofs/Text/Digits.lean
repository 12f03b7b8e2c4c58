import Mathlib.Data.List.TakeWhile
import UnitRouting.Number.Power
import UnitRouting.Value.Loose

/-! # Decimal digits

The digits that a natural number is written with, and the number that they are read as. Written
digits have no superfluous zero in front, so a number has one written form. -/

namespace UnitRouting

theorem tenTo_pos (n : Nat) : 0 < tenTo n := Nat.pow_pos (by decide)

theorem tenTo_ne_zero (n : Nat) : tenTo n ≠ 0 := Nat.ne_of_gt (tenTo_pos n)

theorem tenTo_succ (n : Nat) : tenTo (n + 1) = tenTo n * 10 := rfl

theorem mul_tenTo_succ (n k : Nat) : n * tenTo (k + 1) = n * tenTo k * 10 :=
  (Nat.mul_assoc n (tenTo k) 10).symm

theorem eq_zero_of_significant {n s count : Nat} (significant : s % 10 ≠ 0) (size : s = n * tenTo count) :
    count = 0 := by
  cases count with
  | zero => rfl
  | succ count =>
      rw [size, mul_tenTo_succ] at significant
      exact absurd (Nat.mul_mod_left _ _) significant

theorem tenTo_le_tenTo {m n : Nat} (le : m ≤ n) : tenTo m ≤ tenTo n :=
  Nat.pow_le_pow_right (by decide) le

theorem natAbs_signed (negative : Bool) (n : Nat) :
    (if negative then -(n : Int) else (n : Int)).natAbs = n := by
  cases negative <;> simp

namespace CodePoint

theorem val_ofDigit {d : Nat} (small : d < 10) : (ofDigit d).val = 48 + d := by
  have valid : 48 + d < 0x110000 := by omega
  simp only [ofDigit, ofNat, dif_pos valid]

theorem isDigit_iff {c : CodePoint} : c.isDigit = true ↔ 48 ≤ c.val ∧ c.val ≤ 57 := by
  have zero : '0'.toNat = 48 := rfl
  have nine : '9'.toNat = 57 := rfl
  simp only [isDigit, isBetween, zero, nine, Bool.and_eq_true, decide_eq_true_eq]

theorem isDigit_ofDigit {d : Nat} (small : d < 10) : (ofDigit d).isDigit = true := by
  rw [isDigit_iff, val_ofDigit small]
  omega

theorem digit?_ofDigit {d : Nat} (small : d < 10) : (ofDigit d).digit? = some d := by
  simp only [digit?, isDigit_ofDigit small, if_true, val_ofDigit small, Nat.add_sub_cancel_left]

theorem ofDigit_ne_zero {d : Nat} (small : d < 10) (positive : 0 < d) : ofDigit d ≠ ofChar '0' := by
  intro same
  have equal : (ofDigit d).val = 48 := congrArg val same
  rw [val_ofDigit small] at equal
  omega

end CodePoint

namespace Text

theorem digitsOnto_eq (n : Nat) (rest : Text) : digitsOnto n rest = ofNat n ++ rest := by
  unfold ofNat
  induction n using Nat.strongRecOn generalizing rest with
  | _ n ih =>
      unfold digitsOnto
      split
      · rfl
      · have smaller : n / 10 < n := by omega
        rw [ih _ smaller, ih _ smaller [CodePoint.ofDigit (n % 10)], List.append_assoc]
        rfl

theorem ofNat_of_lt {n : Nat} (small : n < 10) : ofNat n = [CodePoint.ofDigit n] := by
  unfold ofNat digitsOnto
  rw [if_pos small]

theorem ofNat_of_le {n : Nat} (large : 10 ≤ n) :
    ofNat n = ofNat (n / 10) ++ [CodePoint.ofDigit (n % 10)] := by
  have step : digitsOnto n [] = digitsOnto (n / 10) [CodePoint.ofDigit (n % 10)] := by
    rw [digitsOnto, if_neg (by omega)]
  rw [← digitsOnto_eq, ← step]
  rfl

theorem isDigit_of_mem_ofNat {n : Nat} {c : CodePoint} (member : c ∈ ofNat n) : c.isDigit = true := by
  induction n using Nat.strongRecOn with
  | _ n ih =>
      by_cases small : n < 10
      · rw [ofNat_of_lt small, List.mem_singleton] at member
        rw [member]
        exact CodePoint.isDigit_ofDigit small
      · rw [ofNat_of_le (by omega), List.mem_append, List.mem_singleton] at member
        rcases member with front | last
        · exact ih (n / 10) (by omega) front
        · rw [last]
          exact CodePoint.isDigit_ofDigit (Nat.mod_lt n (by omega))

theorem ofNat_head {n : Nat} (positive : 0 < n) :
    ∃ c rest, ofNat n = c :: rest ∧ c ≠ CodePoint.ofChar '0' := by
  induction n using Nat.strongRecOn with
  | _ n ih =>
      by_cases small : n < 10
      · exact ⟨_, [], ofNat_of_lt small, CodePoint.ofDigit_ne_zero small positive⟩
      · obtain ⟨c, rest, written, ne⟩ := ih (n / 10) (by omega) (by omega)
        exact ⟨c, _, by rw [ofNat_of_le (by omega), written, List.cons_append], ne⟩

theorem ofNat_ne_nil (n : Nat) : ofNat n ≠ [] := by
  rcases Nat.eq_zero_or_pos n with rfl | positive
  · rw [ofNat_of_lt (by decide)]
    exact List.cons_ne_nil _ _
  · obtain ⟨c, tail, written, -⟩ := ofNat_head positive
    rw [written]
    exact List.cons_ne_nil _ _

theorem ofNat_cons (n : Nat) : ∃ c tail, ofNat n = c :: tail ∧ c.isDigit = true := by
  obtain ⟨c, tail, written⟩ := List.exists_cons_of_ne_nil (ofNat_ne_nil n)
  exact ⟨c, tail, written, isDigit_of_mem_ofNat (written ▸ List.mem_cons_self)⟩

theorem digitsValue_ofNat (n : Nat) : digitsValue (Numeral.digitValues (ofNat n)) = n := by
  induction n using Nat.strongRecOn with
  | _ n ih =>
      by_cases small : n < 10
      · simp only [ofNat_of_lt small, Numeral.digitValues, List.filterMap_cons,
          CodePoint.digit?_ofDigit small, List.filterMap_nil, digitsValue, List.foldl_cons,
          List.foldl_nil]
        omega
      · have last := CodePoint.digit?_ofDigit (Nat.mod_lt n (by omega : 0 < 10))
        have front := ih (n / 10) (by omega)
        simp only [Numeral.digitValues, digitsValue] at front
        simp only [ofNat_of_le (by omega : 10 ≤ n), Numeral.digitValues, List.filterMap_append,
          List.filterMap_cons, last, List.filterMap_nil, digitsValue, List.foldl_append, front,
          List.foldl_cons, List.foldl_nil]
        omega

theorem ofNat_injective : Function.Injective ofNat := by
  intro m n same
  rw [← digitsValue_ofNat m, same, digitsValue_ofNat]

theorem digitsValue_lt {digits : List Nat} (small : ∀ d ∈ digits, d < 10) :
    digitsValue digits < tenTo digits.length := by
  have onto (n : Nat) : digits.foldl (fun n d => 10 * n + d) n < (n + 1) * tenTo digits.length := by
    induction digits generalizing n with
    | nil =>
        have one : tenTo 0 = 1 := rfl
        simp only [List.foldl_nil, List.length_nil, one]
        omega
    | cons d rest ih =>
        have first := small d List.mem_cons_self
        have later := ih (fun e member => small e (List.mem_cons_of_mem d member)) (10 * n + d)
        have power : (n + 1) * tenTo (rest.length + 1) = (10 * n + 10) * tenTo rest.length := by
          rw [tenTo_succ, Nat.mul_comm _ 10, ← Nat.mul_assoc, Nat.add_mul, Nat.mul_comm n 10]
        have room : (10 * n + d + 1) * tenTo rest.length ≤ (10 * n + 10) * tenTo rest.length :=
          Nat.mul_le_mul_right _ (by omega)
        rw [List.foldl_cons, List.length_cons, power]
        exact Nat.lt_of_lt_of_le later room
  have whole := onto 0
  rw [Nat.zero_add, Nat.one_mul] at whole
  exact whole

theorem digitValues_small {t : Text} : ∀ d ∈ Numeral.digitValues t, d < 10 := by
  intro d member
  obtain ⟨c, -, read⟩ := List.mem_filterMap.mp member
  unfold CodePoint.digit? at read
  split at read
  · next digit =>
      have range := CodePoint.isDigit_iff.mp digit
      cases read
      omega
  · cases read

theorem length_ofNat_le {n k : Nat} (positive : 0 < k) (below : n < tenTo k) :
    (ofNat n).length ≤ k := by
  induction k generalizing n with
  | zero => omega
  | succ k ih =>
      by_cases small : n < 10
      · rw [ofNat_of_lt small, List.length_singleton]
        omega
      · rw [tenTo_succ] at below
        have front : n / 10 < tenTo k := by omega
        have longer : 0 < k := by
          rcases Nat.eq_zero_or_pos k with rfl | longer
          · have one : tenTo 0 = 1 := rfl
            omega
          · exact longer
        rw [ofNat_of_le (by omega), List.length_append, List.length_singleton]
        have := ih longer front
        omega

/-- No digit goes on into the text. -/
def NoDigit (rest : Text) : Prop := ∀ c tail, rest = c :: tail → c.isDigit = false

theorem noDigit_dropWhile (t : Text) : NoDigit (t.dropWhile CodePoint.isDigit) := by
  intro c tail split
  have stops := List.head_dropWhile_not CodePoint.isDigit (l := t) (by simp [split])
  simpa [split] using stops

theorem span_digits {digits rest : Text} (all : ∀ c ∈ digits, c.isDigit = true)
    (ends : NoDigit rest) : (digits ++ rest).takeWhile CodePoint.isDigit = digits ∧
      (digits ++ rest).dropWhile CodePoint.isDigit = rest := by
  rw [List.takeWhile_append_of_pos all, List.dropWhile_append_of_pos all]
  cases rest with
  | nil => simp
  | cons c tail => simp [ends c tail rfl]

end Text

end UnitRouting

import Mathlib.Algebra.Order.Field.Basic
import Mathlib.Data.List.DropRight
import Mathlib.Data.Rat.Cast.Order
import Mathlib.Tactic.FieldSimp
import Mathlib.Tactic.NormNum
import Mathlib.Tactic.Positivity
import Mathlib.Tactic.Ring
import UnitRouting.Proofs.Number.Numeral
import UnitRouting.Proofs.Number.Shortest

/-! # Written numbers

In every layout the text of a positive number writes the digits and the power of ten that it was made
of, so read as a numeral it is the same rational number. The zeros that the layout takes from the end
of the digits, or puts behind them, are made up for by the point. -/

namespace UnitRouting

namespace Numeral

/-- The number that digits write. -/
def value (t : Text) : Nat := Text.digitsValue (digitValues t)

theorem value_ofNat (n : Nat) : value (Text.ofNat n) = n := Text.digitsValue_ofNat n

theorem digitsValue_append (digits more : List Nat) : Text.digitsValue (digits ++ more) =
    Text.digitsValue digits * tenTo more.length + Text.digitsValue more := by
  have onto (n : Nat) : more.foldl (fun n d => 10 * n + d) n =
      n * tenTo more.length + Text.digitsValue more := by
    unfold Text.digitsValue
    induction more generalizing n with
    | nil => simp [tenTo]
    | cons d rest ih =>
        rw [List.foldl_cons, List.foldl_cons, List.length_cons, ih, ih (10 * 0 + d), tenTo_succ]
        ring
  rw [Text.digitsValue, List.foldl_append, onto]
  rfl

theorem length_digitValues {t : Text} (digits : ∀ c ∈ t, c.isDigit = true) :
    (digitValues t).length = t.length := by
  induction t with
  | nil => rfl
  | cons c rest ih =>
      obtain ⟨digit, others⟩ := List.forall_mem_cons.mp digits
      have value : c.digit? = some (c.val - 48) := if_pos digit
      rw [digitValues, List.filterMap_cons_some value, List.length_cons, List.length_cons]
      exact congrArg Nat.succ (ih others)

theorem value_append (t : Text) {more : Text} (digits : ∀ c ∈ more, c.isDigit = true) :
    value (t ++ more) = value t * tenTo more.length + value more := by
  rw [value, digitValues, List.filterMap_append, digitsValue_append]
  rw [← digitValues, ← digitValues, length_digitValues digits]
  rfl

/-- Zeros. -/
abbrev zeros (n : Nat) : Text := List.replicate n (CodePoint.ofChar '0')

theorem isDigit_of_mem_zeros {n : Nat} {c : CodePoint} (member : c ∈ zeros n) :
    c.isDigit = true := by
  rw [List.eq_of_mem_replicate member]
  rfl

theorem value_zeros (n : Nat) : value (zeros n) = 0 := by
  induction n with
  | zero => rfl
  | succ n ih =>
      have zero : value [CodePoint.ofChar '0'] = 0 := rfl
      rw [zeros, List.replicate_succ, ← List.singleton_append,
        value_append _ fun _ => isDigit_of_mem_zeros, ih, zero, Nat.zero_mul]

section Decimals

variable {whole fraction tail : Text}

theorem decimal?_whole (digits : ∀ c ∈ whole, c.isDigit = true) (nonempty : whole ≠ [])
    (ends : Text.NoDigit tail) (noPoint : ∀ rest, tail ≠ CodePoint.ofChar '.' :: rest) :
    decimal? (whole ++ tail) = (exponent? tail).map fun power => (value whole, power) := by
  obtain ⟨front, behind⟩ := Text.span_digits digits ends
  have some : whole.isEmpty = false := by simpa using nonempty
  unfold decimal?
  rw [front, behind]
  cases tail with
  | nil => simp [some, value]
  | cons c rest =>
      have other : c ≠ CodePoint.ofChar '.' := by
        rintro rfl
        exact noPoint rest rfl
      simp [some, other, value]

theorem decimal?_point (digits : ∀ c ∈ whole, c.isDigit = true)
    (digits' : ∀ c ∈ fraction, c.isDigit = true) (nonempty : whole ++ fraction ≠ [])
    (ends : Text.NoDigit tail) :
    decimal? (whole ++ CodePoint.ofChar '.' :: (fraction ++ tail)) =
      (exponent? tail).map fun power => (value (whole ++ fraction), power - (fraction.length : Int)) := by
  have point : Text.NoDigit (CodePoint.ofChar '.' :: (fraction ++ tail)) := by
    rintro c rest ⟨rfl, -⟩
    rfl
  obtain ⟨front, behind⟩ := Text.span_digits digits point
  obtain ⟨front', behind'⟩ := Text.span_digits digits' ends
  have some : (whole.isEmpty && fraction.isEmpty) = false := by
    simpa only [← Bool.not_eq_true, Bool.and_eq_true, List.isEmpty_iff, List.append_eq_nil_iff, ne_eq]
      using nonempty
  unfold decimal?
  rw [front, behind]
  simp only [if_true, front', behind', some, Bool.false_eq_true, if_false]
  rfl

theorem decimal?_digits (digits : ∀ c ∈ whole, c.isDigit = true) (nonempty : whole ≠ []) :
    decimal? whole = some (value whole, 0) := by
  have ends : Text.NoDigit [] := nofun
  have read := decimal?_whole digits nonempty ends nofun
  rwa [List.append_nil] at read

theorem decimal?_places (digits : ∀ c ∈ whole, c.isDigit = true) (nonempty : whole ≠ [])
    (digits' : ∀ c ∈ fraction, c.isDigit = true) :
    decimal? (whole ++ CodePoint.ofChar '.' :: fraction) =
      some (value (whole ++ fraction), -(fraction.length : Int)) := by
  have ends : Text.NoDigit [] := nofun
  have read := decimal?_point digits digits' (List.append_ne_nil_of_left_ne_nil nonempty _) ends
  rw [List.append_nil] at read
  rw [read, ← Int.zero_sub]
  rfl

theorem exponent?_signed (negative : Bool) (digits : ∀ c ∈ tail, c.isDigit = true)
    (nonempty : tail ≠ []) :
    exponent? (CodePoint.ofChar 'e' :: CodePoint.ofChar (if negative then '-' else '+') :: tail) =
      some (if negative then -(value tail : Int) else value tail) := by
  have some : tail.isEmpty = false := by simpa using nonempty
  have all : tail.all CodePoint.isDigit = true := List.all_eq_true.mpr digits
  cases negative with
  | false =>
      have plus : sign (CodePoint.ofChar '+' :: tail) = (false, tail) := rfl
      simp [exponent?, plus, some, all, value]
  | true =>
      have minus : sign (CodePoint.ofChar '-' :: tail) = (true, tail) := rfl
      simp [exponent?, minus, some, all, value]

end Decimals

end Numeral

namespace Layout

open Numeral

variable {layout : Layout}

theorem isDigit_of_mem_exponentDigits {n : Nat} {c : CodePoint}
    (member : c ∈ layout.exponentDigits n) : c.isDigit = true := by
  rcases List.mem_append.mp member with padding | digit
  · exact isDigit_of_mem_zeros padding
  · exact Text.isDigit_of_mem_ofNat digit

theorem exponentDigits_ne_nil (layout : Layout) (n : Nat) : layout.exponentDigits n ≠ [] := by
  intro none
  exact Text.ofNat_ne_nil n (List.append_eq_nil_iff.mp none).2

theorem value_exponentDigits (layout : Layout) (n : Nat) : value (layout.exponentDigits n) = n := by
  rw [exponentDigits, value_append _ fun _ => Text.isDigit_of_mem_ofNat, value_zeros, value_ofNat,
    Nat.zero_mul, Nat.zero_add]

/-- The mark, the sign and the digits of an exponent. -/
def exponent (layout : Layout) (power : Int) : Text :=
  CodePoint.ofChar 'e' :: CodePoint.ofChar (if power < 0 then '-' else '+') ::
    layout.exponentDigits power.natAbs

theorem exponent?_exponent (layout : Layout) (power : Int) :
    exponent? (layout.exponent power) = some power := by
  have digits : ∀ c ∈ layout.exponentDigits power.natAbs, c.isDigit = true :=
    fun _ => isDigit_of_mem_exponentDigits
  have read := exponent?_signed (decide (power < 0)) digits (layout.exponentDigits_ne_nil _)
  simp only [decide_eq_true_eq, value_exponentDigits] at read
  rw [exponent, read]
  split
  · exact congrArg some (by omega)
  · exact congrArg some (by omega)

/-- The forms of a positive number with these significant digits and its point behind so many of them:
    as digits with zeros behind them, with the point among them or with zeros in front of them as long as
    the point is within the bounds, and beyond with one digit in front of the point and an exponent. -/
inductive Form (low high : Int) (mark : Text) (exponent : Int → Text) (digits : Text)
    (point : Int) : Text → Prop where
  | whole {n : Nat} (count : point = digits.length + n) (within : point ≤ high) :
      Form low high mark exponent digits point (digits ++ zeros n ++ mark)
  | inside {front back : Text} (split : digits = front ++ back) (count : point = front.length)
      (some : front ≠ []) (more : back ≠ []) (within : point ≤ high) :
      Form low high mark exponent digits point (front ++ CodePoint.ofChar '.' :: back)
  | leading {n : Nat} (count : point = -n) (within : low < point) :
      Form low high mark exponent digits point (Text.ofString "0." ++ zeros n ++ digits)
  | exponent {first : CodePoint} {rest : Text} (split : digits = first :: rest)
      (beyond : point ≤ low ∨ high < point) :
      Form low high mark exponent digits point
        (first :: ((if rest = [] then [] else CodePoint.ofChar '.' :: rest) ++ exponent (point - 1)))

theorem cast_length_cons_eq_one (first : CodePoint) (rest : Text) :
    ((first :: rest).length : Int) = 1 ↔ rest = [] := by
  rw [← List.length_eq_zero_iff, List.length_cons]
  omega

theorem exponent_sign (power : Int) :
    (if 0 ≤ power then Text.ofString "+" else Text.ofString "-") =
      [CodePoint.ofChar (if power < 0 then '-' else '+')] := by
  rcases lt_or_ge power 0 with below | above
  · rw [if_neg (by omega), if_pos below]
    rfl
  · rw [if_pos above, if_neg (by omega)]
    rfl

/-- The text of a positive number has one of the forms. -/
theorem form_positive (layout : Layout) {digits : Text} (some : digits ≠ []) (point : Int) :
    Form layout.minPoint layout.maxPoint layout.wholeMark layout.exponent digits point
      (layout.positive digits point) := by
  unfold positive
  dsimp only
  split
  · next within =>
      split
      · exact .whole (by omega) within.2
      · next long =>
          split
          · next inside =>
              rw [List.append_assoc]
              apply Form.inside (List.take_append_drop _ _).symm _ _ _ within.2
              · rw [List.length_take]
                omega
              · rw [ne_eq, List.take_eq_nil_iff, not_or]
                exact ⟨by omega, some⟩
              · rw [ne_eq, List.drop_eq_nil_iff]
                omega
          · next leading => exact .leading (by omega) within.1
  · next beyond =>
      obtain ⟨first, rest, rfl⟩ := List.exists_cons_of_ne_nil some
      simp only [cast_length_cons_eq_one, exponent_sign, List.append_assoc]
      exact .exponent rfl (by omega)

/-- The forms exclude each other if zero is within the bounds, so no other text has one. -/
theorem Form.eq_positive {digits : Text} {point : Int} {t : Text}
    (form : Form layout.minPoint layout.maxPoint layout.wholeMark layout.exponent digits point t)
    (some : digits ≠ []) (low : layout.minPoint ≤ 0) (high : 0 ≤ layout.maxPoint) :
    t = layout.positive digits point := by
  have length := List.length_pos_of_ne_nil some
  unfold positive
  dsimp only
  cases form with
  | @whole n count within =>
      have zeros : (point - digits.length).toNat = n := by omega
      rw [if_pos ⟨by omega, within⟩, if_pos (by omega), zeros]
  | @inside front back split count front_ne back_ne within =>
      have positive := List.length_pos_of_ne_nil front_ne
      have more := List.length_pos_of_ne_nil back_ne
      have whole : point.toNat = front.length := by omega
      have total := congrArg List.length split
      rw [List.length_append] at total
      rw [if_pos ⟨by omega, within⟩, if_neg (by omega), if_pos (by omega), whole, split,
        List.take_left, List.drop_left, List.append_assoc]
      rfl
  | @leading n count within =>
      have zeros : (-point).toNat = n := by omega
      rw [if_pos ⟨within, by omega⟩, if_neg (by omega), if_neg (by omega), zeros]
  | @exponent first rest split beyond =>
      subst split
      have outside : ¬(layout.minPoint < point ∧ point ≤ layout.maxPoint) := by omega
      simp only [if_neg outside, cast_length_cons_eq_one, exponent_sign, List.append_assoc]
      rfl

/-- What is read from a text is a decimal of this value. -/
def ReadsAs (t : Text) (q : ℚ) : Prop :=
  ∃ size power, decimal? t = some (size, power) ∧ (size * 10 ^ power : ℚ) = q

section Positive

variable {digits : Text} (all : ∀ c ∈ digits, c.isDigit = true)

include all

theorem readsAs_whole (marked : layout.wholeMark = [] ∨ layout.wholeMark = ".0") (some : digits ≠ [])
    (n : Nat) : ReadsAs (digits ++ zeros n ++ layout.wholeMark) (value digits * 10 ^ n) := by
  have digits' : ∀ c ∈ digits ++ zeros n, c.isDigit = true := by
    intro c member
    rcases List.mem_append.mp member with digit | zero
    · exact all c digit
    · exact isDigit_of_mem_zeros zero
  have some' : digits ++ zeros n ≠ [] := by simp [some]
  have size : value (digits ++ zeros n) = value digits * tenTo n := by
    rw [value_append _ fun _ => isDigit_of_mem_zeros, value_zeros, List.length_replicate, Nat.add_zero]
  rcases marked with none | zero
  · rw [none, List.append_nil]
    refine ⟨_, _, decimal?_digits digits' some', ?_⟩
    rw [size]
    push_cast
    simp
  · have zero' : ∀ c ∈ zeros 1, c.isDigit = true := fun _ => isDigit_of_mem_zeros
    have mark : Text.ofString ".0" = CodePoint.ofChar '.' :: zeros 1 := rfl
    rw [zero, mark]
    refine ⟨_, _, decimal?_places digits' some' zero', ?_⟩
    rw [value_append _ zero', size, value_zeros]
    push_cast
    simp

theorem readsAs_inside {front back : Text} (split : digits = front ++ back) (some : front ≠ []) :
    ReadsAs (front ++ CodePoint.ofChar '.' :: back) (value digits * 10 ^ (-(back.length : ℤ))) := by
  subst split
  obtain ⟨digits, digits'⟩ := List.forall_mem_append.mp all
  exact ⟨_, _, decimal?_places digits some digits', rfl⟩

theorem readsAs_leading (n : Nat) : ReadsAs (Text.ofString "0." ++ zeros n ++ digits)
    (value digits * 10 ^ (-(n + digits.length : ℤ))) := by
  have whole : ∀ c ∈ zeros 1, c.isDigit = true := fun _ => isDigit_of_mem_zeros
  have fraction : ∀ c ∈ zeros n ++ digits, c.isDigit = true := by
    intro c member
    rcases List.mem_append.mp member with zero | digit
    · exact isDigit_of_mem_zeros zero
    · exact all c digit
  have text : Text.ofString "0." ++ zeros n ++ digits =
      zeros 1 ++ CodePoint.ofChar '.' :: (zeros n ++ digits) := by
    rw [List.append_assoc]
    rfl
  rw [text]
  refine ⟨_, _, decimal?_places whole nofun fraction, ?_⟩
  rw [value_append _ fraction, value_append _ all, value_zeros, value_zeros]
  simp

theorem readsAs_exponent {first : CodePoint} {rest : Text} (split : digits = first :: rest)
    (layout : Layout) (power : Int) : ReadsAs
      (first :: ((if rest = [] then [] else CodePoint.ofChar '.' :: rest) ++ layout.exponent power))
      (value digits * 10 ^ (power - rest.length)) := by
  subst split
  obtain ⟨digit, others⟩ := List.forall_mem_cons.mp all
  have whole : ∀ c ∈ [first], c.isDigit = true := List.forall_mem_singleton.mpr digit
  obtain ⟨sign, ends⟩ : ∃ tail, layout.exponent power = CodePoint.ofChar 'e' :: tail := ⟨_, rfl⟩
  have noDigit : Text.NoDigit (layout.exponent power) := by
    rintro c tail same
    rw [ends] at same
    cases same
    rfl
  by_cases single : rest = []
  · have noPoint : ∀ tail, layout.exponent power ≠ CodePoint.ofChar '.' :: tail := by
      rintro tail same
      rw [ends] at same
      exact absurd (List.cons.inj same).1 (by decide)
    have read := decimal?_whole whole nofun noDigit noPoint
    rw [exponent?_exponent] at read
    subst single
    exact ⟨_, _, read, by simp⟩
  · have read := decimal?_point whole others nofun noDigit
    rw [exponent?_exponent] at read
    rw [if_neg single]
    exact ⟨_, _, read, rfl⟩

/-- In every form the text is a decimal of its digits and its point. -/
theorem Form.readsAs {layout : Layout} {point : Int} {t : Text}
    (marked : layout.wholeMark = [] ∨ layout.wholeMark = ".0") (some : digits ≠ [])
    (form : Form layout.minPoint layout.maxPoint layout.wholeMark layout.exponent digits point t) :
    ReadsAs t (value digits * 10 ^ (point - digits.length)) := by
  cases form with
  | @whole n count within =>
      have places : point - digits.length = (n : ℤ) := by omega
      rw [places, zpow_natCast]
      exact readsAs_whole all marked some n
  | @inside front back split count front_ne back_ne within =>
      have length := congrArg List.length split
      rw [List.length_append] at length
      have places : point - digits.length = -(back.length : ℤ) := by omega
      rw [places]
      exact readsAs_inside all split front_ne
  | @leading n count within =>
      have places : point - digits.length = -(n + digits.length : ℤ) := by omega
      rw [places]
      exact readsAs_leading all n
  | @exponent first rest split beyond =>
      have length := congrArg List.length split
      rw [List.length_cons] at length
      have places : point - digits.length = point - 1 - rest.length := by omega
      rw [places]
      exact readsAs_exponent all split layout (point - 1)

end Positive

theorem ofNat_eq_concat (n : Nat) : ∃ front, Text.ofNat n = front ++ [CodePoint.ofDigit (n % 10)] := by
  by_cases small : n < 10
  · exact ⟨[], by rw [Text.ofNat_of_lt small, Nat.mod_eq_of_lt small, List.nil_append]⟩
  · exact ⟨Text.ofNat (n / 10), Text.ofNat_of_le (by omega)⟩

/-- Digits without the zeros at their end are those of a number that does not end with zero. -/
theorem stripped_ofNat {n : Nat} (positive : 0 < n) : ∃ s count, s % 10 ≠ 0 ∧ n = s * tenTo count ∧
    (Text.ofNat n).length = (Text.ofNat s).length + count ∧
      ((Text.ofNat n).reverse.dropWhile (· == CodePoint.ofChar '0')).reverse = Text.ofNat s := by
  induction n using Nat.strongRecOn with
  | _ n ih =>
      by_cases last : n % 10 = 0
      · obtain ⟨s, count, significant, size, length, stripped⟩ := ih (n / 10) (by omega) (by omega)
        have power : s * tenTo (count + 1) = n / 10 * 10 := by
          rw [size, mul_tenTo_succ]
        have written := Text.ofNat_of_le (n := n) (by omega)
        rw [last] at written
        refine ⟨s, count + 1, significant, by omega, ?_, ?_⟩
        · rw [written, List.length_append, length]
          rfl
        · rw [written, List.reverse_append]
          exact stripped
      · obtain ⟨front, written⟩ := ofNat_eq_concat n
        have digit := CodePoint.ofDigit_ne_zero (Nat.mod_lt n (by decide)) (Nat.pos_of_ne_zero last)
        refine ⟨n, 0, last, (Nat.mul_one n).symm, rfl, ?_⟩
        rw [written, List.reverse_append, List.reverse_singleton, List.singleton_append,
          List.dropWhile_cons, if_neg (by simpa using digit), List.reverse_cons, List.reverse_reverse]

theorem ofNat_mul_tenTo {s : Nat} (positive : 0 < s) (count : Nat) :
    Text.ofNat (s * tenTo count) = Text.ofNat s ++ zeros count := by
  induction count with
  | zero => simp [tenTo]
  | succ count ih =>
      have some := Nat.mul_pos positive (tenTo_pos count)
      have written := Text.ofNat_of_le (n := s * tenTo count * 10) (by omega)
      rw [Nat.mul_div_cancel _ (by decide), Nat.mul_mod_left, ih] at written
      rw [mul_tenTo_succ, written, zeros, zeros, List.replicate_succ', List.append_assoc]
      rfl

/-- A positive decimal has a text of significant digits and a point in every layout. -/
theorem decimal_eq_positive {d : Decimal} (some : d.digits ≠ 0) : ∃ (s count : Nat) (point : Int),
    s % 10 ≠ 0 ∧ d.digits = s * tenTo count ∧
      (⟨s, point - (Text.ofNat s).length⟩ : Decimal).value = d.value ∧
      ∀ layout : Layout, layout.decimal d = layout.positive (Text.ofNat s) point := by
  obtain ⟨s, count, significant, size, length, stripped⟩ := stripped_ofNat (Nat.pos_of_ne_zero some)
  refine ⟨s, count, d.exponent + (Text.ofNat d.digits).length, significant, size, ?_, ?_⟩
  · have places : d.exponent + ((Text.ofNat d.digits).length : ℤ) - (Text.ofNat s).length =
        (count : ℤ) + d.exponent := by omega
    rw [Decimal.value, Decimal.value, places, zpow_add₀ (by norm_num), zpow_natCast, size, ← mul_assoc]
    push_cast
    rfl
  · intro layout
    rw [decimal, stripped]

end Layout

end UnitRouting

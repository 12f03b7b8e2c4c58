import UnitRouting.Proofs.Number.Closest
import UnitRouting.Proofs.Number.Order
import UnitRouting.Proofs.Number.Written

/-! # Number text is read back

The loose text of a number, read as a number again, is the floating point number nearest to it:
exactly, but for the sign of zero. For a number that is neither zero nor infinite it is a decimal of the
common forms, and the same rational number as the text in which the number is shown. -/

namespace UnitRouting

namespace Layout

open Numeral

section Forms

variable {low high : Int} {mark digits t : Text} {exponent : Int → Text} {point : Int}

theorem Form.begins (form : Form low high mark exponent digits point t)
    (all : ∀ c ∈ digits, c.isDigit = true) (some : digits ≠ []) :
    ∃ c tail, t = c :: tail ∧ c.isDigit = true := by
  obtain ⟨first, rest, written⟩ := List.exists_cons_of_ne_nil some
  have digit := all first (written ▸ List.mem_cons_self)
  cases form with
  | whole => exact ⟨first, _, by rw [written]; rfl, digit⟩
  | @inside front back split count front_ne =>
      obtain ⟨c, tail, front_eq⟩ := List.exists_cons_of_ne_nil front_ne
      exact ⟨c, _, by rw [front_eq]; rfl, all c (by simp [split, front_eq])⟩
  | leading => exact ⟨CodePoint.ofChar '0', _, rfl, rfl⟩
  | exponent split =>
      rw [written] at split
      cases split
      exact ⟨first, _, rfl, digit⟩

theorem Form.legible (form : Form low high mark exponent digits point t)
    (all : ∀ c ∈ digits, c.isNumeralSpace = false) (marked : ∀ c ∈ mark, c.isNumeralSpace = false)
    (powers : ∀ c ∈ exponent (point - 1), c.isNumeralSpace = false) :
    ∀ c ∈ t, c.isNumeralSpace = false := by
  have zero (n : Nat) : ∀ c ∈ zeros n, c.isNumeralSpace = false := by
    intro c member
    rw [List.eq_of_mem_replicate member]
    rfl
  have dot : (CodePoint.ofChar '.').isNumeralSpace = false := rfl
  cases form with
  | whole => simp only [List.forall_mem_append]; exact ⟨⟨all, zero _⟩, marked⟩
  | inside split =>
      subst split
      obtain ⟨front, back⟩ := List.forall_mem_append.mp all
      simp only [List.forall_mem_append, List.forall_mem_cons]
      exact ⟨front, dot, back⟩
  | leading =>
      simp only [List.forall_mem_append]
      exact ⟨⟨by decide, zero _⟩, all⟩
  | @exponent first rest split =>
      subst split
      obtain ⟨digit, others⟩ := List.forall_mem_cons.mp all
      simp only [List.forall_mem_append, List.forall_mem_cons]
      refine ⟨digit, ?_, powers⟩
      split
      · exact nofun
      · exact List.forall_mem_cons.mpr ⟨dot, others⟩

end Forms

end Layout

namespace Numeral

theorem isNumeralSpace_of_isDigit {c : CodePoint} (digit : c.isDigit = true) :
    c.isNumeralSpace = false := by
  have range := CodePoint.isDigit_iff.mp digit
  simp only [CodePoint.isNumeralSpace, Bool.or_eq_false_iff, Bool.and_eq_false_iff,
    decide_eq_false_iff_not, beq_eq_false_iff_ne]
  omega

/-- A minus sign or nothing. -/
def minus (negative : Bool) : Text := if negative then "-" else ""

theorem sign_minus (negative : Bool) {t : Text}
    (begins : ∃ c tail, t = c :: tail ∧ c.isDigit = true) :
    sign (minus negative ++ t) = (negative, t) := by
  obtain ⟨c, tail, rfl, digit⟩ := begins
  cases negative with
  | true => rfl
  | false =>
      have noMinus : c ≠ CodePoint.ofChar '-' := by
        rintro rfl
        cases digit
      have noPlus : c ≠ CodePoint.ofChar '+' := by
        rintro rfl
        cases digit
      exact (if_neg noMinus).trans (if_neg noPlus)

theorem read_decimal (negative : Bool) {t : Text} {size : Nat} {power : Int}
    (begins : ∃ c tail, t = c :: tail ∧ c.isDigit = true)
    (legible : ∀ c ∈ t, c.isNumeralSpace = false) (decimal : decimal? t = some (size, power)) :
    read (minus negative ++ t) = .ok (.ofDecimal negative size power) := by
  have trimmed : (minus negative ++ t).trim CodePoint.isNumeralSpace = minus negative ++ t := by
    apply Text.trim_of_none
    refine List.forall_mem_append.mpr ⟨?_, legible⟩
    cases negative <;> decide
  have some : (minus negative ++ t).isEmpty = false := by
    obtain ⟨c, tail, rfl, -⟩ := begins
    cases negative <;> rfl
  simp [read, trimmed, some, sign_minus negative begins, decimal]

/-- The rational number that a signed decimal writes. -/
def rational? (t : Text) : Option ℚ :=
  let (negative, unsigned) := sign t
  (decimal? unsigned).map fun (size, power) =>
    if negative then -(size * 10 ^ power : ℚ) else size * 10 ^ power

theorem rational?_minus (negative : Bool) {t : Text} {q : ℚ}
    (begins : ∃ c tail, t = c :: tail ∧ c.isDigit = true) (reads : Layout.ReadsAs t q) :
    rational? (minus negative ++ t) = some (if negative then -q else q) := by
  obtain ⟨size, power, decimal, rfl⟩ := reads
  simp only [rational?, sign_minus negative begins, decimal, Option.map_some]

end Numeral

open Numeral

namespace Double

theorem eq_self {x : Double} (number : x ≠ .nan) : x.eq x = true := by
  obtain ⟨place, here⟩ := exists_place number
  simp only [eq, here, decide_true]

section Finite

variable {mantissa : Nat} {exponent : Int} (canonical : Canonical mantissa exponent)
  (positive : mantissa ≠ 0)

include canonical positive

/-- The digits of the shortest decimal and a point from which the number is written in every layout. -/
theorem exists_shortest : ∃ (s : Nat) (point : Int),
    Decimal.IsShortest mantissa exponent canonical ⟨s, point - (Text.ofNat s).length⟩ ∧
    ∀ (layout : Layout) (negative : Bool), layout.write (.finite negative mantissa exponent canonical) =
      minus negative ++ layout.positive (Text.ofNat s) point := by
  have some := Decimal.digits_ne_zero positive (Decimal.toDouble_shortest canonical positive)
  obtain ⟨s, count, point, significant, size, value, decimal⟩ := Layout.decimal_eq_positive some
  refine ⟨s, point, Decimal.isShortest_of_shortest positive canonical significant size value, ?_⟩
  intro layout negative
  rw [Layout.write, if_neg positive, decimal]
  rfl

theorem exists_digits : ∃ (s : Nat) (point : Int), s % 10 ≠ 0 ∧
    (⟨s, point - (Text.ofNat s).length⟩ : Decimal).toDouble =
      .finite false mantissa exponent canonical ∧
    (∀ d : Decimal, d.toDouble = .finite false mantissa exponent canonical →
      Decimal.digitCount s ≤ Decimal.digitCount d.digits) ∧
    ∀ (layout : Layout) (negative : Bool), layout.write (.finite negative mantissa exponent canonical) =
      minus negative ++ layout.positive (Text.ofNat s) point := by
  obtain ⟨s, point, shortest, written⟩ := exists_shortest canonical positive
  refine ⟨s, point, shortest.significant, Decimal.rounds_iff.mp shortest.rounds, ?_, written⟩
  exact fun d reads => shortest.fewest d (Decimal.rounds_iff.mpr reads)

end Finite

end Double

namespace Layout

section Digits

variable (layout : Layout) (s : Nat) (point : Int)

theorem form_ofNat : Form layout.minPoint layout.maxPoint layout.wholeMark layout.exponent
    (Text.ofNat s) point (layout.positive (Text.ofNat s) point) :=
  form_positive layout (Text.ofNat_ne_nil s) point

theorem positive_ofNat_begins :
    ∃ c tail, layout.positive (Text.ofNat s) point = c :: tail ∧ c.isDigit = true :=
  (form_ofNat layout s point).begins (fun _ => Text.isDigit_of_mem_ofNat) (Text.ofNat_ne_nil s)

theorem readsAs_positive (marked : layout.wholeMark = [] ∨ layout.wholeMark = ".0") :
    ReadsAs (layout.positive (Text.ofNat s) point) (s * 10 ^ (point - (Text.ofNat s).length)) := by
  have reads := (form_ofNat layout s point).readsAs (fun _ => Text.isDigit_of_mem_ofNat) marked
    (Text.ofNat_ne_nil s)
  rwa [value_ofNat] at reads

theorem rational?_positive (marked : layout.wholeMark = [] ∨ layout.wholeMark = ".0")
    (negative : Bool) : rational? (minus negative ++ layout.positive (Text.ofNat s) point) =
      some (if negative then -(s * 10 ^ (point - (Text.ofNat s).length) : ℚ)
        else s * 10 ^ (point - (Text.ofNat s).length)) :=
  rational?_minus negative (layout.positive_ofNat_begins s point)
    (layout.readsAs_positive s point marked)

end Digits

theorem plain_exponent (power : Int) : plain.exponent power = CodePoint.ofChar 'e' ::
    CodePoint.ofChar (if power < 0 then '-' else '+') :: Text.ofNat power.natAbs := by
  have some := List.length_pos_of_ne_nil (Text.ofNat_ne_nil power.natAbs)
  have width : plain.exponentWidth - (Text.ofNat power.natAbs).length = 0 :=
    Nat.sub_eq_zero_of_le some
  rw [exponent, exponentDigits, width]
  rfl

theorem plain_legible (s : Nat) (point : Int) :
    ∀ c ∈ plain.positive (Text.ofNat s) point, c.isNumeralSpace = false := by
  have digits (n : Nat) : ∀ c ∈ Text.ofNat n, c.isNumeralSpace = false :=
    fun _ member => isNumeralSpace_of_isDigit (Text.isDigit_of_mem_ofNat member)
  apply (form_ofNat plain s point).legible (digits s) nofun
  rw [plain_exponent]
  simp only [List.forall_mem_cons]
  refine ⟨rfl, ?_, digits _⟩
  split <;> rfl

end Layout

namespace Numeral

/-- A number that is neither zero nor infinite is read back as it is. -/
theorem read_finite (negative : Bool) {mantissa : Nat} {exponent : Int}
    (canonical : Double.Canonical mantissa exponent) (positive : mantissa ≠ 0) :
    read (Layout.plain.write (.finite negative mantissa exponent canonical)) =
      .ok (.finite negative mantissa exponent canonical) := by
  obtain ⟨s, point, -, reads, -, written⟩ := Double.exists_digits canonical positive
  obtain ⟨size, power, decimal, same⟩ := Layout.plain.readsAs_positive s point (.inl rfl)
  rw [written, read_decimal negative (Layout.plain.positive_ofNat_begins s point)
    (Layout.plain_legible s point) decimal, Double.ofDecimal_congr negative same,
    Double.ofDecimal_signed negative reads]

theorem read_write {x : Double} (number : x ≠ .nan) :
    ∃ y, read (Layout.plain.write x) = .ok y ∧ y.eq x = true := by
  cases x with
  | nan => exact absurd rfl number
  | infinite negative => cases negative <;> exact ⟨_, rfl, rfl⟩
  | finite negative mantissa exponent canonical =>
      by_cases zero : mantissa = 0
      · have text : Layout.plain.write (.finite negative mantissa exponent canonical) = "0" := by
          rw [Layout.write, if_pos zero]
          cases negative <;> rfl
        have units : Double.units negative mantissa exponent = 0 := by
          rw [Double.units, zero, Nat.zero_mul]
          cases negative <;> rfl
        refine ⟨.zero false, by rw [text]; rfl, ?_⟩
        simp only [Double.eq, Double.zero, Double.place?, units]
        rfl
      · exact ⟨_, read_finite negative canonical zero, Double.eq_self number⟩

theorem read_ofNat (negative : Bool) (n : Nat) :
    read (minus negative ++ Text.ofNat n) = .ok (.ofRatio negative n 1) := by
  have digits : ∀ c ∈ Text.ofNat n, c.isDigit = true := fun _ => Text.isDigit_of_mem_ofNat
  have legible : ∀ c ∈ Text.ofNat n, c.isNumeralSpace = false :=
    fun c member => isNumeralSpace_of_isDigit (digits c member)
  have decimal := decimal?_digits digits (Text.ofNat_ne_nil n)
  rw [read_decimal negative (Text.ofNat_cons n) legible decimal, value_ofNat, Double.ofDecimal_eq_ofRatio]
  exact congrArg (fun size => Except.ok (Double.ofRatio negative size 1)) (Nat.mul_one n)

theorem read_ofInt (n : Int) : read (Text.ofInt n) = .ok (.ofInt n) := by
  cases n with
  | ofNat n => exact read_ofNat false n
  | negSucc n =>
      have below : decide (Int.negSucc n < 0) = true := decide_eq_true (Int.negSucc_lt_zero n)
      rw [Double.ofInt, below]
      exact read_ofNat true (n + 1)

theorem read_looseInt (n : Int) : ∃ y, read (looseInt n) = .ok y ∧ y.eq (.ofInt n) = true := by
  have number : Double.ofInt n ≠ .nan := Double.ofRatio_ne_nan _ _ _
  unfold looseInt
  split
  · exact ⟨_, read_ofInt n, Double.eq_self number⟩
  · exact read_write number

end Numeral

/-- Number text round-trips. The loose text of an integer of any size, and of any floating point number
    but NaN, is read as a number equal to the one itself. For a number that is neither zero nor infinite
    the digits and the point are those of the text in which it is shown, laid out with bounds and
    exponents of their own, and both texts are the same rational number. The digits are the fewest that
    read back as the number. -/
theorem number_text_round_trips :
    (∀ n : Int, ∃ x y, (Value.int n).looseNumber = .ok x ∧
      (Value.text (Value.int n).looseText).looseNumber = .ok y ∧ y.eq x = true) ∧
    (∀ x : Double, x ≠ .nan → ∃ y, (Value.float x).looseNumber = .ok x ∧
      (Value.text (Value.float x).looseText).looseNumber = .ok y ∧ y.eq x = true) ∧
    ∀ (negative : Bool) (mantissa : Nat) (exponent : Int)
      (canonical : Double.Canonical mantissa exponent), mantissa ≠ 0 →
      let x : Double := .finite negative mantissa exponent canonical
      ∃ (s : Nat) (point : Int) (t shown : Text), s % 10 ≠ 0 ∧
        (Value.float x).looseText = minus negative ++ t ∧
        Layout.Form (-6) 21 [] Layout.plain.exponent (Text.ofNat s) point t ∧
        Layout.display.write x = minus negative ++ shown ∧
        Layout.Form (-4) 16 ".0" Layout.display.exponent (Text.ofNat s) point shown ∧
        (let size : ℚ := s * 10 ^ (point - (Text.ofNat s).length)
         rational? (Value.float x).looseText = some (if negative then -size else size) ∧
           rational? (Layout.display.write x) = rational? (Value.float x).looseText) ∧
        (⟨s, point - (Text.ofNat s).length⟩ : Decimal).toDouble =
          .finite false mantissa exponent canonical ∧
        ∀ d : Decimal, d.toDouble = .finite false mantissa exponent canonical →
          Decimal.digitCount s ≤ Decimal.digitCount d.digits := by
  refine ⟨?ints, ?floats, ?layout⟩
  case ints =>
    intro n
    obtain ⟨y, read, same⟩ := read_looseInt n
    exact ⟨_, y, rfl, read, same⟩
  case floats =>
    intro x number
    obtain ⟨y, read, same⟩ := read_write number
    exact ⟨y, rfl, read, same⟩
  case layout =>
    intro negative mantissa exponent canonical positive x
    obtain ⟨s, point, significant, reads, fewest, written⟩ :=
      Double.exists_digits canonical positive
    have loose := Layout.plain.rational?_positive s point (.inl rfl) negative
    have shown := Layout.display.rational?_positive s point (.inr rfl) negative
    refine ⟨s, point, _, _, significant, written _ negative, Layout.plain.form_ofNat s point,
      written _ negative, Layout.display.form_ofNat s point, ⟨?_, ?_⟩, reads, fewest⟩
    · rw [Value.looseText, written, loose]
    · rw [Value.looseText, written, written, shown, loose]

end UnitRouting

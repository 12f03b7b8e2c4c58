import UnitRouting.Proofs.Number.Rounding
import UnitRouting.Proofs.Outcome
import UnitRouting.Value.Loose

/-! # Numerals beyond all numbers

A decimal that is too large is infinite, but a literal with a base mark that is too large is a fault.
Loose conversions to a number and loose comparisons fail for this reason only, and only where they
read a text as a number. -/

namespace UnitRouting

open Outcome

/-- The text is, but for white space around it, a literal with a base mark whose number rounds to the
    infinity. -/
def Text.Overflows (t : Text) : Prop :=
  ∃ n, Numeral.radix? (t.trim CodePoint.isNumeralSpace) = some n ∧ Double.overflowBound ≤ n

namespace Numeral

theorem radix?_eq_some {t : Text} {n : Nat} (read : radix? t = some n) :
    ∃ (mark : Char) (digits : Text), t = CodePoint.ofChar '0' :: CodePoint.ofChar mark :: digits ∧
      mark ∈ ['x', 'X', 'o', 'O', 'b', 'B'] := by
  unfold radix? at read
  split at read
  · next zero mark digits =>
      split at read
      case isFalse => cases read
      next begins =>
        subst begins
        split at read
        · next hexadecimal =>
            rcases hexadecimal with rfl | rfl
            · exact ⟨'x', digits, rfl, by decide⟩
            · exact ⟨'X', digits, rfl, by decide⟩
        split at read
        · next octal =>
            rcases octal with rfl | rfl
            · exact ⟨'o', digits, rfl, by decide⟩
            · exact ⟨'O', digits, rfl, by decide⟩
        split at read
        · next binary =>
            rcases binary with rfl | rfl
            · exact ⟨'b', digits, rfl, by decide⟩
            · exact ⟨'B', digits, rfl, by decide⟩
        · cases read
  · cases read

theorem decimal?_of_radix {t : Text} {n : Nat} (read : radix? t = some n) :
    t.isEmpty = false ∧ sign t = (false, t) ∧ decimal? t = none ∧ t ≠ Text.ofString "Infinity" := by
  obtain ⟨mark, digits, rfl, listed⟩ := radix?_eq_some read
  refine ⟨rfl, rfl, ?_, ?_⟩
  · simp only [List.mem_cons, List.not_mem_nil, or_false] at listed
    rcases listed with rfl | rfl | rfl | rfl | rfl | rfl <;> rfl
  · intro same
    have heads := congrArg List.head? same
    cases heads

theorem read_of_radix {t : Text} {n : Nat}
    (found : radix? (t.trim CodePoint.isNumeralSpace) = some n) :
    read t = match Double.ofInt n with
      | .infinite _ => .error .tooLarge
      | x => .ok x := by
  obtain ⟨visible, unsigned, notDecimal, notInfinity⟩ := decimal?_of_radix found
  cases value : Double.ofInt n <;>
    simp only [read, visible, Bool.false_eq_true, if_false, unsigned, notDecimal,
      if_neg notInfinity, found, value]

/-- Reading a numeral fails for a literal with a base mark that is too large, and for nothing else. -/
theorem read_eq_error {t : Text} {fault : Fault} :
    read t = .error fault ↔ fault = .tooLarge ∧ t.Overflows := by
  constructor
  · intro failed
    cases found : radix? (t.trim CodePoint.isNumeralSpace) with
    | some n =>
        rw [read_of_radix found] at failed
        split at failed
        · next negative beyond =>
            cases failed
            exact ⟨rfl, n, found, (Double.ofInt_eq_infinite.mp beyond).1⟩
        · cases failed
    | none =>
        simp only [read, found] at failed
        split at failed
        · cases failed
        split at failed
        · cases failed
        split at failed <;> cases failed
  · rintro ⟨rfl, n, found, large⟩
    have beyond : Double.ofInt n = .infinite (decide ((n : Int) < 0)) :=
      Double.ofInt_eq_infinite.mpr ⟨large, rfl⟩
    rw [read_of_radix found, beyond]

end Numeral

namespace Value

/-- The text that the number of a value is read from, if it is read from one. -/
def numeralText? : Value → Option Text
  | .text t => some t
  | .list items => some (Value.list items).looseText
  | _ => none

theorem looseNumber_eq_error {v : Value} {fault : Fault} :
    v.looseNumber = .error fault ↔
      fault = .tooLarge ∧ ∃ t, v.numeralText? = some t ∧ t.Overflows := by
  cases v with
  | text t => simp only [looseNumber, numeralText?, Numeral.read_eq_error, Option.some.injEq,
      exists_eq_left']
  | list items => simp only [looseNumber, numeralText?, Numeral.read_eq_error, Option.some.injEq,
      exists_eq_left']
  | _ => simp only [looseNumber, numeralText?, reduceCtorEq, false_and, exists_false, and_false]

/-- The value is compared with texts as a number. -/
def isNumeric : Value → Bool
  | .bool _ | .int _ | .float _ => true
  | _ => false

theorem looseEq_text_eq_error {same : Bool} {v : Value} {t : Text} {fault : Fault} :
    v.looseEq same (.text t) = .error fault ↔
      fault = .tooLarge ∧ v.isNumeric = true ∧ t.Overflows := by
  cases v with
  | bool | int | float =>
      simp only [looseEq, primitive?, isContainer, Bool.and_false, Bool.false_eq_true, if_false,
        Primitive.looseEq, isNumeric, true_and, ← Numeral.read_eq_error]
      cases Numeral.read t <;> simp [Except.map]
  | _ => simp [looseEq, primitive?, isContainer, Primitive.looseEq, isNumeric]

theorem looseEq_undefined (same : Bool) (v : Value) :
    ∃ b, v.looseEq same .undefined = .ok b := by
  cases v <;> exact ⟨_, rfl⟩

end Value

end UnitRouting

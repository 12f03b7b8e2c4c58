import UnitRouting.Condition.Evaluate
import UnitRouting.Proofs.Condition.Shape
import UnitRouting.Proofs.Pattern.Refusal
import UnitRouting.Proofs.Value.Overflow

/-! # Evaluations that fail

A condition says true or false of every context, with two exceptions. One is a literal with a base
mark beyond all floating point numbers, where a text is read as a number. The other is a pattern that
is refused for more than being malformed: for a count behind a brace, or for flags behind a question
mark. -/

namespace UnitRouting

open Outcome

namespace Condition

/-- What keeps an operator from saying anything about the value of a field. -/
def Trips (c : Condition) (actual : Value) (fault : Fault) : Operator → Prop
  | .equals | .notEquals =>
    fault = .tooLarge ∧ actual.isNumeric = true ∧ ∃ t, c.value = some t ∧ t.Overflows
  | .greaterThan | .lessThan =>
    fault = .tooLarge ∧ ∃ t, (actual.numeralText? = some t ∨ c.value = some t) ∧ t.Overflows
  | .regexMatch =>
    ∃ e, Pattern.compile c.patternText = .error e ∧ e.fault? = some fault ∧
      e.FoundIn c.patternText
  | _ => False

theorem looseEq_expected_eq_error (c : Condition) {actual : Value} {fault : Fault} :
    actual.looseEq false c.expected = .error fault ↔ c.Trips actual fault .equals := by
  unfold expected Trips
  cases c.value with
  | none =>
      obtain ⟨b, answered⟩ := Value.looseEq_undefined false actual
      simp [answered]
  | some t => simp [Value.looseEq_text_eq_error]

theorem numberTest_eq_error (c : Condition) (test : Double → Double → Bool) {actual : Value}
    {fault : Fault} :
    numberTest test actual c.expected = .error fault ↔ c.Trips actual fault .greaterThan := by
  have numeral : c.expected.numeralText? = c.value := by
    unfold expected
    cases c.value <;> rfl
  simp only [numberTest, bind_eq_error, Value.looseNumber_eq_error, pure_ok, reduceCtorEq, and_false,
    exists_false, or_false, numeral, Trips]
  constructor
  · rintro (⟨rfl, t, read, beyond⟩ | ⟨x, -, rfl, t, given, beyond⟩)
    · exact ⟨rfl, t, .inl read, beyond⟩
    · exact ⟨rfl, t, .inr given, beyond⟩
  · rintro ⟨rfl, t, read | given, beyond⟩
    · exact .inl ⟨rfl, t, read, beyond⟩
    · cases left : actual.looseNumber with
      | error fault =>
          obtain ⟨rfl, other⟩ := Value.looseNumber_eq_error.mp left
          exact .inl ⟨rfl, other⟩
      | ok x => exact .inr ⟨x, rfl, rfl, t, given, beyond⟩

theorem patternTest_eq_error (c : Condition) {subject : Text} {actual : Value} {fault : Fault} :
    c.patternTest subject = .error fault ↔ c.Trips actual fault .regexMatch := by
  unfold patternTest Trips
  cases compiled : Pattern.compile c.patternText with
  | ok pattern => simp
  | error e =>
      have found := Pattern.found_of_refused compiled
      simp only [Except.error.injEq, exists_eq_left', found, and_true]
      cases e <;> simp [Pattern.Error.fault?]

theorem holds_eq_error (c : Condition) {actual : Value} {operator : Operator} {fault : Fault} :
    c.holds actual operator = .error fault ↔ c.Trips actual fault operator := by
  cases operator with
  | equals => exact c.looseEq_expected_eq_error
  | notEquals => exact map_eq_error.trans c.looseEq_expected_eq_error
  | greaterThan => exact c.numberTest_eq_error _
  | lessThan => exact c.numberTest_eq_error _
  | regexMatch => exact c.patternTest_eq_error
  | _ => simp only [holds, Trips, reduceCtorEq]

/-- An evaluation fails exactly where the value of the field or the text of the condition trips the
    operator; whatever else the operands are, the condition says true or false. -/
theorem evaluate_fails_iff (c : Condition) (context : Fields) (fault : Fault) :
    c.evaluate context = .error fault ↔ c.isValid = true ∧
      ∃ operator : Operator, operator.name = c.operator ∧
        c.Trips (context.resolve c.field) fault operator := by
  unfold evaluate
  cases c.isValid with
  | false => simp
  | true =>
      cases known : Operator.ofName? c.operator with
      | none =>
          have unknown (operator : Operator) : operator.name ≠ c.operator := by
            intro named
            rw [Operator.ofName?_eq_some.mpr named] at known
            cases known
          simp [unknown]
      | some operator =>
          have named := Operator.ofName?_eq_some.mp known
          have only (other : Operator) : other.name = c.operator ↔ other = operator := by
            rw [← Operator.ofName?_eq_some, known, Option.some.injEq, eq_comm]
          simp [only, holds_eq_error]

/-- The literal of `2 ^ 1024`, as a bound that a number is compared with. -/
theorem huge_literal_fails :
    ∃ c, create (.text "duration") (.text "GREATER_THAN")
        (.text ("0x1" ++ List.replicate 256 (CodePoint.ofChar '0'))) = .ok c ∧
      c.evaluate [("duration", .int 5)] = .error .tooLarge :=
  ⟨_, rfl, by decide +kernel⟩

end Condition

end UnitRouting

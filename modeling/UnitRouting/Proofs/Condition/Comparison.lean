import UnitRouting.Condition.Evaluate
import UnitRouting.Proofs.Condition.Typed
import UnitRouting.Proofs.Number.Order

/-! # Comparing numbers with numerals

A number equals a numeral, lies above it or lies below it, and never two of these. It is none of them
only where the number is an integer between floating point numbers that is rounded onto the one that
the numeral writes: equality does not round it, order does. -/

namespace UnitRouting

open Outcome

namespace Value

variable {v : Value} {x : Number} {t : Text} {d : Double}

theorem looseEq_numeral (number : v.number? = some x) (read : Numeral.read t = .ok d) :
    v.looseEq false (.text t) = .ok (x.eq (.float d)) := by
  cases v with
  | int | float =>
      cases number
      simp only [looseEq, primitive?, isContainer, Bool.and_false, Bool.false_eq_true, if_false,
        Primitive.looseEq, read, Except.map]
  | _ => cases number

theorem looseNumber_of_number (number : v.number? = some x) : v.looseNumber = .ok x.toDouble := by
  cases v with
  | int | float =>
      cases number
      rfl
  | _ => cases number

end Value

namespace Condition

/-- The operators that say where a number lies: at another one, above it or below it. -/
def comparisons : List Text := ["EQUALS", "GREATER_THAN", "LESS_THAN"]

variable {field t : Text} {context : Fields} {operator : Operator} {x : Number} {d : Double}

theorem create_operator (field t : Text) (stripped : operator.name.strip = operator.name) :
    create (.text field) (.text operator.name) (.text t) = .ok (ofTyped field operator.name t) :=
  create_typed_eq_ok.mpr ⟨field, operator.name, rfl, congrArg Except.ok stripped, rfl⟩

theorem evaluate_ofTyped (named : field.strip ≠ []) (operator : Operator) :
    (ofTyped field operator.name t).evaluate context =
      (ofTyped field operator.name t).holds (context.resolve field) operator := by
  have known : Operator.ofName? operator.name = some operator := Operator.ofName?_eq_some.mpr rfl
  have valid : (ofTyped field operator.name t).isValid = true := by
    simp only [isValid, field_ofTyped, operator_ofTyped, Bool.and_eq_true, Bool.not_eq_true',
      List.isEmpty_eq_false_iff]
    exact ⟨named, by cases operator <;> decide⟩
  simp only [evaluate, valid, if_true, field_ofTyped, operator_ofTyped, known]

theorem expected_ofTyped (single : ValueShape.ofName operator.name = .single) :
    (ofTyped field operator.name t).expected = .text t := by
  simp only [ofTyped, single, expected]

theorem evaluate_comparisons (named : field.strip ≠ [])
    (found : (context.resolve field).number? = some x) (read : Numeral.read t = .ok d) :
    [Operator.equals, .greaterThan, .lessThan].mapM
        (fun operator => (ofTyped field operator.name t).evaluate context) =
      .ok [x.eq (.float d), d.lt x.toDouble, x.toDouble.lt d] := by
  have left : (context.resolve field).looseNumber = .ok x.toDouble :=
    Value.looseNumber_of_number found
  have right : (Value.text t).looseNumber = .ok d := read
  have equal := Value.looseEq_numeral found read
  simp only [mapM_eq_ok, List.forall₂_cons, List.forall₂_nil_left_iff, evaluate_ofTyped named, holds]
  rw [expected_ofTyped rfl, expected_ofTyped rfl, expected_ofTyped rfl]
  refine ⟨equal, ?_, ?_, trivial⟩
  · simp only [numberTest, left, right, bind_ok, pure_ok]
  · simp only [numberTest, left, right, bind_ok, pure_ok]

/-- A number and a numeral, neither of them NaN: the field equals the numeral, is greater or is less,
    and only one of these, unless the number is an integer beyond `2 ^ 53` that is rounded onto the
    number that the numeral writes. Then it is none of them. -/
theorem one_comparison_holds_unless_rounded (named : field.strip ≠ [])
    (found : (context.resolve field).number? = some x) (proper : x ≠ .float .nan)
    (read : Numeral.read t = .ok d) (number : d ≠ .nan) :
    ∃ conditions outcomes,
      comparisons.mapM (fun operator => create (.text field) (.text operator) (.text t)) =
        .ok conditions ∧
      conditions.mapM (fun c => c.evaluate context) = .ok outcomes ∧
      outcomes.count true = (if x.roundsOnto d then 0 else 1) ∧
      (x.roundsOnto d = true → ∃ n : Int, x = .int n ∧ twoTo 53 < n.natAbs) := by
  let operators : List Operator := [.equals, .greaterThan, .lessThan]
  refine ⟨operators.map fun operator => ofTyped field operator.name t, _, ?_, ?_,
    Number.count_comparisons proper number, Number.large_of_roundsOnto⟩
  · have made (operator : Operator) (stripped : operator.name.strip = operator.name) :=
      create_operator field t stripped
    apply mapM_eq_ok.mpr
    exact .cons (made .equals rfl) (.cons (made .greaterThan rfl) (.cons (made .lessThan rfl) .nil))
  · exact evaluate_comparisons named found read

/-- Three hundred is the number that `0x12C` writes. -/
theorem hexadecimal_compared :
    let context : Fields := [("duration", .int 300)]
    Text.strip "duration" ≠ [] ∧
      (context.resolve "duration").number? = some (.int 300) ∧
      Numeral.read " 0x12C " = .ok (.ofInt 300) ∧
      ∃ conditions outcomes,
        comparisons.mapM
            (fun operator => create (.text "duration") (.text operator) (.text " 0x12C ")) =
          .ok conditions ∧
        conditions.mapM (fun c => c.evaluate context) = .ok outcomes ∧ outcomes.count true = 1 := by
  intro context
  have named : Text.strip "duration" ≠ [] := by decide
  have found : (context.resolve "duration").number? = some (.int 300) := by decide
  have read : Numeral.read " 0x12C " = .ok (.ofInt 300) := by decide +kernel
  obtain ⟨conditions, outcomes, made, compared, one, -⟩ :=
    one_comparison_holds_unless_rounded named found (by decide) read (by decide +kernel)
  have exact : (Number.int 300).roundsOnto (.ofInt 300) = false := by decide +kernel
  rw [exact] at one
  exact ⟨named, found, read, conditions, outcomes, made, compared, one⟩

/-- `2 ^ 53 + 1` is written out, but lies neither at its own numeral nor above it nor below it. -/
theorem rounded_integer_compares_with_nothing :
    let context : Fields := [("account", .int 9007199254740993)]
    let t : Text := "9007199254740993"
    (context.resolve "account").number? = some (.int 9007199254740993) ∧
      Numeral.read t = .ok (.ofInt 9007199254740992) ∧ Double.ofInt 9007199254740992 ≠ .nan ∧
      comparisons.mapM (fun operator =>
          create (.text "account") (.text operator) (.text t) >>= fun c => c.evaluate context) =
        .ok [false, false, false] := by
  decide +kernel

end Condition

end UnitRouting

import UnitRouting.Condition.Evaluate
import UnitRouting.Proofs.Condition.Typed
import UnitRouting.Proofs.Text.Members

/-! # Conditions whose text says their value

An edit makes a condition again of the text that it shows. Where the text says the value, an edit of
the field keeps the value. It does not say the value of members that were handed over as a list with
a comma in one of them or with nothing but an empty one, and it does not tell no value from an empty
one. -/

namespace UnitRouting

open Outcome

namespace Condition

/-- The value can be read off the text that the condition shows: there is one, no member has a comma
    in it, and no text stands for an empty member. -/
def Legible (c : Condition) : Prop :=
  match ValueShape.ofName c.operator with
  | .set => (∀ m ∈ c.values, CodePoint.ofChar ',' ∉ m) ∧ (c.values = [[]] → c.rawValue ≠ [])
  | .valueless => True
  | .single => c.value ≠ none

variable {c d : Condition} {f : Text}

theorem withChanges_eq_ok {changes : Fields} :
    c.withChanges changes = .ok d ↔ changes.unknown attributes = [] ∧
      create ((changes.get? "field").getD (.text c.field))
        ((changes.get? "operator").getD (.text c.operator))
        ((changes.get? "value").getD (.text c.rawValue)) = .ok d := by
  unfold withChanges
  split
  · next none => simp only [none, true_and]
  · next some =>
      constructor
      · intro refused
        cases refused
      · rintro ⟨none, -⟩
        exact absurd none some

/-- What an operator makes of the text has the value exactly if the value can be read off it. -/
theorem Sourced.value_ofTyped_iff (sourced : c.Sourced) (f : Text) :
    (ofTyped f c.operator c.rawValue).value = c.value ∧
      (ofTyped f c.operator c.rawValue).values = c.values ↔ c.Legible := by
  have value := sourced.value
  unfold ofTyped Legible
  cases shape : ValueShape.ofName c.operator with
  | set =>
      simp only [shape] at value ⊢
      obtain ⟨none, read | ⟨stripped, joined⟩⟩ := value
      · simp only [none, ← read, true_and, true_iff]
        constructor
        · intro m member
          exact Text.comma_not_mem_of_mem_members (read ▸ member)
        · intro alone bare
          rw [alone, bare] at read
          cases read
      · rw [joined, Text.members_join_iff stripped, none]
        simp only [true_and]
        refine and_congr_right fun _ => ?_
        constructor
        · intro several alone
          exact absurd alone several
        · intro visible alone
          exact visible alone (by rw [alone]; rfl)
  | valueless =>
      simp only [shape] at value ⊢
      simp only [value.1, value.2, and_self]
  | single =>
      simp only [shape] at value ⊢
      obtain ⟨bare, absent | present⟩ := value
      · simp [absent]
      · simp [present, bare]

theorem legible_ofTyped {o typed : Text} (stripped : o.strip = o) :
    (ofTyped f o typed).Legible := by
  have sourced := sourced_ofTyped f stripped typed
  apply (sourced.value_ofTyped_iff f).mp
  simp only [operator_ofTyped, rawValue_ofTyped, and_self]

/-- The changes are of the field, if of anything. -/
def FieldOnly (changes : Fields) : Prop := ∀ name ∈ changes.names, name = "field"

end Condition

theorem Fields.get?_eq_none {fields : Fields} {name : Text} (absent : name ∉ fields.names) :
    fields.get? name = none := by
  induction fields with
  | nil => rfl
  | cons entry rest ih =>
      obtain ⟨key, value⟩ := entry
      simp only [names, List.map_cons, List.mem_cons, not_or] at absent
      rw [get?, if_neg (Ne.symm absent.1)]
      exact ih absent.2

namespace Condition

variable {c d : Condition} {f : Text} {changes : Fields}

theorem FieldOnly.get?_eq_none (only : FieldOnly changes) {name : Text} (other : name ≠ "field") :
    changes.get? name = none :=
  Fields.get?_eq_none fun member => other (only name member)

theorem FieldOnly.unknown_eq_nil (only : FieldOnly changes) : changes.unknown attributes = [] := by
  have none : (changes.names.filter fun name => !attributes.contains name) = [] := by
    apply List.filter_eq_nil_iff.mpr
    intro name member
    rw [only name member]
    decide
  rw [Fields.unknown, none, Text.sorted, List.mergeSort_nil]

theorem withChanges_of_fieldOnly (stripped : c.operator.strip = c.operator)
    (only : FieldOnly changes)
    (named : fieldText ((changes.get? "field").getD (.text c.field)) = .ok f) :
    c.withChanges changes = .ok (ofTyped f c.operator c.rawValue) := by
  have operator : changes.get? "operator" = none := only.get?_eq_none (by decide)
  have value : changes.get? "value" = none := only.get?_eq_none (by decide)
  apply withChanges_eq_ok.mpr
  rw [operator, value]
  refine ⟨only.unknown_eq_nil, create_typed_eq_ok.mpr ⟨f, c.operator, named, ?_, rfl⟩⟩
  exact congrArg Except.ok stripped

theorem holds_congr (value : d.value = c.value) (values : d.values = c.values) (actual : Value)
    (operator : Operator) : d.holds actual operator = c.holds actual operator := by
  cases operator <;> simp only [holds, expected, patternTest, patternText, value, values]

theorem evaluate_congr (operator : d.operator = c.operator) (value : d.value = c.value)
    (values : d.values = c.values) (named : d.field.strip = [] ↔ c.field.strip = [])
    {before after : Fields} (same : after.resolve d.field = before.resolve c.field) :
    d.evaluate after = c.evaluate before := by
  have blank : d.field.strip.isEmpty = c.field.strip.isEmpty := by
    rw [Bool.eq_iff_iff, List.isEmpty_iff, List.isEmpty_iff]
    exact named
  unfold evaluate isValid
  rw [operator, blank, same]
  simp only [holds_congr value values]

end Condition

end UnitRouting

import UnitRouting.Condition.Basic
import UnitRouting.Proofs.Outcome
import UnitRouting.Proofs.Text.Strip
import UnitRouting.Proofs.Value.Shown

/-! # The shape of conditions

Whatever a condition was made from, its value has the shape that its operator takes. Changing a
condition makes it again, under the new operator. -/

namespace UnitRouting

open Outcome

namespace Operator

theorem ofName?_eq_some {t : Text} {operator : Operator} :
    ofName? t = some operator ↔ operator.name = t := by
  constructor
  · intro found
    simpa using List.find?_some found
  · rintro rfl
    cases operator <;> rfl

end Operator

namespace ValueShape

theorem ofName_ne_single {operator : Text} (special : ofName operator ≠ .single) :
    ∃ known : Operator, known.name = operator ∧ ofName operator = known.shape := by
  unfold ofName at special ⊢
  cases found : Operator.ofName? operator with
  | none =>
      rw [found] at special
      exact absurd rfl special
  | some known => exact ⟨known, Operator.ofName?_eq_some.mp found, rfl⟩

theorem ofName_eq_set {operator : Text} :
    ofName operator = .set ↔ operator = "IN" ∨ operator = "NOT_IN" := by
  constructor
  · intro set
    obtain ⟨known, rfl, shape⟩ := ofName_ne_single (by rw [set]; decide)
    rw [set] at shape
    cases known with
    | isIn => exact .inl rfl
    | notIn => exact .inr rfl
    | _ => cases shape
  · rintro (rfl | rfl) <;> rfl

theorem ofName_eq_valueless {operator : Text} :
    ofName operator = .valueless ↔
      operator = "IS_NULL_OR_EMPTY" ∨ operator = "IS_NOT_NULL_OR_EMPTY" := by
  constructor
  · intro valueless
    obtain ⟨known, rfl, shape⟩ := ofName_ne_single (by rw [valueless]; decide)
    rw [valueless] at shape
    cases known with
    | isNullOrEmpty => exact .inl rfl
    | isNotNullOrEmpty => exact .inr rfl
    | _ => cases shape
  · rintro (rfl | rfl) <;> rfl

end ValueShape

namespace Condition

/-- The operator is stripped, and the value has the shape that the operator takes: stripped members,
    no value at all, or at most one text. -/
structure WellFormed (c : Condition) : Prop where
  operator : c.operator.strip = c.operator
  set : c.operator = "IN" ∨ c.operator = "NOT_IN" → c.value = none ∧ ∀ m ∈ c.values, m.strip = m
  valueless : c.operator = "IS_NULL_OR_EMPTY" ∨ c.operator = "IS_NOT_NULL_OR_EMPTY" →
    c.value = none ∧ c.values = []
  single : ¬ (c.operator = "IN" ∨ c.operator = "NOT_IN") →
    ¬ (c.operator = "IS_NULL_OR_EMPTY" ∨ c.operator = "IS_NOT_NULL_OR_EMPTY") → c.values = []

theorem WellFormed.of_shape {c : Condition} (operator : c.operator.strip = c.operator)
    (shape : match ValueShape.ofName c.operator with
      | .set => c.value = none ∧ ∀ m ∈ c.values, m.strip = m
      | .valueless => c.value = none ∧ c.values = []
      | .single => c.values = []) : c.WellFormed where
  operator := operator
  set named := by
    rw [ValueShape.ofName_eq_set.mpr named] at shape
    exact shape
  valueless named := by
    rw [ValueShape.ofName_eq_valueless.mpr named] at shape
    exact shape
  single notSet notValueless := by
    cases known : ValueShape.ofName c.operator with
    | single =>
        rw [known] at shape
        exact shape
    | set => exact absurd (ValueShape.ofName_eq_set.mp known) notSet
    | valueless => exact absurd (ValueShape.ofName_eq_valueless.mp known) notValueless

/-- How the value goes with the text that a condition shows, under a stripped operator: members were
    read off the text, or the text was joined of stripped members; a single value is the text itself,
    if there is one. -/
structure Sourced (c : Condition) : Prop where
  operator : c.operator.strip = c.operator
  value : match ValueShape.ofName c.operator with
    | .set => c.value = none ∧ (c.values = c.rawValue.members ∨
        (∀ m ∈ c.values, m.strip = m) ∧ c.rawValue = Text.join ", " c.values)
    | .valueless => c.value = none ∧ c.values = []
    | .single => c.values = [] ∧ (c.value = none ∨ c.value = some c.rawValue)

theorem Sourced.wellFormed {c : Condition} (sourced : c.Sourced) : c.WellFormed := by
  apply WellFormed.of_shape sourced.operator
  have value := sourced.value
  cases shape : ValueShape.ofName c.operator with
  | set =>
      rw [shape] at value
      obtain ⟨none, read | ⟨stripped, -⟩⟩ := value
      · refine ⟨none, ?_⟩
        intro m member
        exact Text.strip_of_mem_members (read ▸ member)
      · exact ⟨none, stripped⟩
  | valueless =>
      rw [shape] at value
      exact value
  | single =>
      rw [shape] at value
      exact value.1

end Condition

variable {proper : Prop}

namespace Value

theorem operatorText_ofInput (v : Value) :
    Settles (Fault.OfInput proper) (fun operator => operator.strip = operator) v.operatorText := by
  cases v with
  | null => exact .ok rfl
  | text t => exact .ok (Text.strip_strip t)
  | _ => exact .error (.refused rfl)

theorem strip_of_operatorText {v : Value} {operator : Text} (chosen : v.operatorText = .ok operator) :
    operator.strip = operator := by
  have settled : Settles (Fault.OfInput True) _ v.operatorText := v.operatorText_ofInput
  exact settled.of_ok chosen

theorem scalarText_ofInput (what : Text) (v : Value) :
    Settles (Fault.OfInput proper) (fun _ => True) (v.scalarText what) := by
  unfold scalarText
  split
  · exact .error (.refused rfl)
  · exact .error (.refused rfl)
  · exact .error (.refused rfl)
  · exact .ok trivial

end Value

namespace Condition

theorem createSet_ofInput (field operator : Text) (raw : Value) :
    Settles (Fault.OfInput proper)
      (fun c => c.operator = operator ∧ c.value = none ∧ (c.values = c.rawValue.members ∨
        (∀ m ∈ c.values, m.strip = m) ∧ c.rawValue = Text.join ", " c.values))
      (createSet field operator raw) := by
  unfold createSet
  split
  · next items =>
      apply (Settles.mapM fun item _ => item.scalarText_ofInput memberRole).bind
      intro texts _
      refine .ok ⟨rfl, rfl, .inr ⟨?_, rfl⟩⟩
      intro m member
      obtain ⟨text, -, rfl⟩ := List.mem_map.mp member
      exact Text.strip_strip text
  · exact .ok ⟨rfl, rfl, .inl rfl⟩
  · apply (Value.scalarText_ofInput valueRole raw).bind
    intro source _
    exact .ok ⟨rfl, rfl, .inl rfl⟩

theorem createSingle_ofInput (field operator : Text) (raw : Value) :
    Settles (Fault.OfInput proper)
      (fun c => c.operator = operator ∧ c.values = [] ∧
        (c.value = none ∨ c.value = some c.rawValue))
      (createSingle field operator raw) := by
  unfold createSingle
  split
  · exact .error (.refused rfl)
  · exact .ok ⟨rfl, rfl, .inl rfl⟩
  · apply (Value.scalarText_ofInput valueRole raw).bind
    intro value _
    exact .ok ⟨rfl, rfl, .inr rfl⟩

theorem fieldText_ofInput (field : Value) :
    Settles (Fault.OfInput proper) (fun _ => True) (fieldText field) := by
  unfold fieldText
  split
  · exact .ok trivial
  · exact .ok trivial
  · exact .error (.refused rfl)

theorem shaped_ofInput {operator : Text} (stripped : operator.strip = operator) (field : Text)
    (raw : Value) : Settles (Fault.OfInput proper) Sourced (shaped field operator raw) := by
  unfold shaped
  cases shape : ValueShape.ofName operator with
  | set =>
      apply (createSet_ofInput field operator raw).imp _ fun _ ofInput => ofInput
      rintro c ⟨rfl, value⟩
      exact ⟨stripped, by rw [shape]; exact value⟩
  | valueless => exact .ok ⟨stripped, by simp only [createValueless, shape, and_self]⟩
  | single =>
      apply (createSingle_ofInput field operator raw).imp _ fun _ ofInput => ofInput
      rintro c ⟨rfl, value⟩
      exact ⟨stripped, by rw [shape]; exact value⟩

/-- Whatever a condition is made from, its value goes with its text, or it is refused for a reason of
    its own. -/
theorem create_ofInput (field operator raw : Value) :
    Settles (Fault.OfInput proper) Sourced (create field operator raw) :=
  (fieldText_ofInput field).bind fun name _ =>
    operator.operatorText_ofInput.bind fun _ stripped => shaped_ofInput stripped name raw

theorem create_expected (field operator raw : Value) :
    Settles (Fault.Expected proper) Sourced (create field operator raw) :=
  (create_ofInput field operator raw).weaken fun _ => Fault.OfInput.expected

theorem withChanges_expected (c : Condition) (changes : Fields) :
    Settles (Fault.Expected proper) Sourced (c.withChanges changes) := by
  unfold withChanges
  split
  · exact create_expected _ _ _
  · exact .error (.refused rfl)

/-- The condition was made from authored input, or by changing another one. -/
inductive Made (c : Condition) : Prop where
  | created {field operator raw : Value} (made : create field operator raw = .ok c)
  | changed {old : Condition} {changes : Fields} (made : old.withChanges changes = .ok c)

theorem Made.sourced {c : Condition} (made : c.Made) : c.Sourced := by
  cases made with
  | @created field operator raw made =>
      have settled : Settles (Fault.OfInput True) Sourced (create field operator raw) :=
        create_ofInput field operator raw
      exact settled.of_ok made
  | @changed old changes made =>
      have settled : Settles (Fault.Expected True) Sourced (old.withChanges changes) :=
        withChanges_expected old changes
      exact settled.of_ok made

theorem Made.wellFormed {c : Condition} (made : c.Made) : c.WellFormed := made.sourced.wellFormed

end Condition

end UnitRouting

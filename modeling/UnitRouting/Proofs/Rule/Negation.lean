import UnitRouting.Proofs.Condition.Comparison
import UnitRouting.Proofs.Condition.Legible
import UnitRouting.Proofs.Rule.Creation
import UnitRouting.Rule.Engine

/-! # Negated rules

Eight operators come in pairs that say the opposite of each other, and an edit of the operator keeps the
typed text for the other one of the pair. So a rule is negated by edits alone: every operator is exchanged
for its opposite, and conditions of which all had to hold become conditions of which any has to, or the
other way round. Conditions that cannot hold at all do not turn into ones that always do; they count for
nothing before and after. -/

namespace UnitRouting

open Outcome

namespace Operator

/-- The operator that says the opposite, if there is one. -/
def opposite? : Operator → Option Operator
  | equals => some notEquals
  | notEquals => some equals
  | isIn => some notIn
  | notIn => some isIn
  | contains => some notContains
  | notContains => some contains
  | isNullOrEmpty => some isNotNullOrEmpty
  | isNotNullOrEmpty => some isNullOrEmpty
  | startsWith | endsWith | greaterThan | lessThan | regexMatch => none

theorem strip_name (o : Operator) : o.name.strip = o.name := by
  cases o <;> decide

theorem name_ne_nil (o : Operator) : o.name ≠ [] := by
  cases o <;> decide

end Operator

namespace Combinator

def opposite : Combinator → Combinator
  | all => any
  | any => all

theorem combine_opposite (combinator : Combinator) (results : List Bool) :
    combinator.opposite.combine (results.map (!·)) = !combinator.combine results := by
  cases combinator with
  | all => simp [opposite, combine, List.not_all_eq_any_not]
  | any => simp [opposite, combine, List.not_any_eq_all_not]

end Combinator

namespace Condition

/-- The condition was made of a typed text with an operator that has an opposite. -/
def Reversible (c : Condition) : Prop :=
  ∃ (field operator : Value) (typed : Text) (o o' : Operator),
    create field operator (.text typed) = .ok c ∧ c.operator = o.name ∧ o.opposite? = some o'

/-- The condition after an edit that exchanges its operator for the opposite one, if there is one. -/
def negate (c : Condition) : Except Fault Condition :=
  match (Operator.ofName? c.operator).bind Operator.opposite? with
  | some o => c.withChanges [("operator", .text o.name)]
  | none => .ok c

/-- The second condition says the opposite of the first one wherever that one can hold at all. -/
structure Opposes (c d : Condition) : Prop where
  isValid : d.isValid = c.isValid
  evaluate : c.isValid = true → ∀ context, d.evaluate context = (c.evaluate context).map (!·)

variable {f typed : Text} {o o' : Operator} {context : Fields}

theorem map_not_not (result : Except Fault Bool) : (result.map (!·)).map (!·) = result := by
  cases result <;> simp [Except.map]

theorem holds_opposite (opposite : o.opposite? = some o') (actual : Value) :
    (ofTyped f o'.name typed).holds actual o' =
      ((ofTyped f o.name typed).holds actual o).map (!·) := by
  cases o with
  | equals | isIn | contains | isNullOrEmpty =>
      cases opposite
      rfl
  | notEquals =>
      cases opposite
      exact (map_not_not _).symm
  | notIn | notContains | isNotNullOrEmpty =>
      cases opposite
      exact congrArg Except.ok (Bool.not_not _).symm
  | _ => cases opposite

theorem isValid_ofTyped : (ofTyped f o.name typed).isValid = !f.strip.isEmpty := by
  simp [isValid, o.name_ne_nil]

theorem opposes_ofTyped (opposite : o.opposite? = some o') :
    (ofTyped f o.name typed).Opposes (ofTyped f o'.name typed) := by
  constructor
  · rw [isValid_ofTyped, isValid_ofTyped]
  · intro valid context
    have named : f.strip ≠ [] := by simpa [isValid_ofTyped] using valid
    rw [evaluate_ofTyped named, evaluate_ofTyped named]
    exact holds_opposite opposite _

/-- The text that was typed goes to the opposite operator. -/
theorem Reversible.negate {c : Condition} (reversible : c.Reversible) :
    ∃ d, c.negate = .ok d ∧ c.Opposes d := by
  obtain ⟨field, operator, typed, o, o', made, chosen, opposite⟩ := reversible
  obtain ⟨f, name, -, -, rfl⟩ := create_typed_eq_ok.mp made
  rw [operator_ofTyped] at chosen
  subst chosen
  refine ⟨ofTyped f o'.name typed, ?_, opposes_ofTyped opposite⟩
  have known : Operator.ofName? o.name = some o := Operator.ofName?_eq_some.mpr rfl
  have again : create (.text f) (.text o'.name) (.text typed) = .ok (ofTyped f o'.name typed) :=
    create_operator f typed o'.strip_name
  simp only [Condition.negate, operator_ofTyped, known, Option.bind_some, opposite]
  have listed : Text.ofString "operator" ∈ attributes := by decide
  have nothingElse : Fields.unknown attributes [("operator", .text o'.name)] = [] := by
    simp [Fields.unknown, Fields.names, listed, Text.sorted]
  refine withChanges_eq_ok.mpr ⟨nothingElse, ?_⟩
  rw [field_ofTyped, rawValue_ofTyped]
  exact again

end Condition

namespace Rule

/-- The rule after edits that negate each of its conditions and exchange the combinator. -/
def negate (r : Rule) : Except Fault Rule := do
  let conditions ← r.conditions.mapM Condition.negate
  r.withChanges { RuleEdit.ofConditions conditions with
    combinator := some (.text r.combinator.opposite.name) }

theorem opposes_filter {conditions conditions' : List Condition}
    (opposes : List.Forall₂ Condition.Opposes conditions conditions') :
    List.Forall₂ (fun c d => ∀ context : Fields, d.evaluate context = (c.evaluate context).map (!·))
      (conditions.filter Condition.isValid) (conditions'.filter Condition.isValid) := by
  induction opposes with
  | nil => exact .nil
  | @cons c d rest rest' opposes _ ih =>
      rw [List.filter_cons, List.filter_cons, opposes.isValid]
      split
      · next valid => exact .cons (opposes.evaluate valid) ih
      · exact ih

/-- What conditions say of a context, up to the first fault. -/
def resultsOf (conditions : List Condition) (context : Fields) : Except Fault (List Bool) :=
  conditions.mapM (·.evaluate context)

/-- Conditions that say the opposite have opposite results, or the same first fault. -/
theorem resultsOf_opposite {conditions conditions' : List Condition}
    (opposes : List.Forall₂ (fun c d => ∀ context : Fields,
      d.evaluate context = (c.evaluate context).map (!·)) conditions conditions') (context : Fields) :
    resultsOf conditions' context = (resultsOf conditions context).map (List.map (!·)) := by
  unfold resultsOf
  induction opposes with
  | nil => rfl
  | @cons c d rest rest' opposes _ ih =>
      rw [List.mapM_cons, List.mapM_cons, ih, opposes context]
      cases c.evaluate context with
      | error fault => rfl
      | ok b =>
          cases List.mapM (fun other : Condition => other.evaluate context) rest with
          | error fault => rfl
          | ok results => rfl

theorem negate_conditions {conditions : List Condition}
    (reversible : ∀ c ∈ conditions, c.Reversible) : ∃ negated,
      conditions.mapM Condition.negate = .ok negated ∧
        List.Forall₂ Condition.Opposes conditions negated := by
  induction conditions with
  | nil => exact ⟨[], rfl, .nil⟩
  | cons c rest ih =>
      obtain ⟨first, others⟩ := List.forall_mem_cons.mp reversible
      obtain ⟨d, here, opposes⟩ := first.negate
      obtain ⟨negated, there, opposed⟩ := ih others
      refine ⟨d :: negated, ?_, .cons opposes opposed⟩
      rw [List.mapM_cons, here, bind_ok, there, bind_ok, pure_ok]

theorem negate_eq_ok {r : Rule} (named : r.id ≠ []) {negated : List Condition}
    (all : r.conditions.mapM Condition.negate = .ok negated) :
    r.negate = .ok { r with conditions := negated, combinator := r.combinator.opposite } := by
  rw [negate, all, bind_ok]
  refine withChanges_eq_ok.mpr ⟨rfl, create_eq_ok.mpr ⟨idText_eq_ok.mpr ⟨rfl, named⟩, rfl, ?_, rfl, rfl,
    ConditionsInput.conditions_eq_ok.mpr rfl⟩⟩
  exact Value.combinator_name r.combinator.opposite

theorem isMatch_of_valid {r : Rule} (some : r.validConditions ≠ []) (context : Fields) :
    r.isMatch context = (resultsOf r.validConditions context).map r.combinator.combine := by
  rw [isMatch, if_neg (by simpa using some), ← resultsOf]
  cases resultsOf r.validConditions context with
  | error fault => rfl
  | ok results => rfl

end Rule

/-- A rule is negated by edits. If all of its conditions were made of typed texts, with operators that have
    an opposite, and one of them can hold, then the edits are accepted, and in every context the negated
    rule says the opposite of what the rule says, or fails with the same fault. -/
theorem negated_rule_is_complement {input : RuleInput} {r : Rule} (made : Rule.create input = .ok r)
    (reversible : ∀ c ∈ r.conditions, c.Reversible) (some : r.validConditions ≠ []) :
    ∃ s, r.negate = .ok s ∧ ∀ context, s.isMatch context = (r.isMatch context).map (!·) := by
  obtain ⟨negated, all, opposes⟩ := Rule.negate_conditions reversible
  let s : Rule := { r with conditions := negated, combinator := r.combinator.opposite }
  refine ⟨s, Rule.negate_eq_ok (Rule.id_ne_nil_of_create made) all, fun context => ?_⟩
  have valid := Rule.opposes_filter opposes
  have some' : s.validConditions ≠ [] := by
    rw [← List.length_pos_iff, Rule.validConditions, ← valid.length_eq, List.length_pos_iff]
    exact some
  have results : Rule.resultsOf s.validConditions context =
      (Rule.resultsOf r.validConditions context).map (List.map (!·)) :=
    Rule.resultsOf_opposite valid context
  rw [Rule.isMatch_of_valid some, Rule.isMatch_of_valid some', results]
  cases Rule.resultsOf r.validConditions context with
  | error fault => rfl
  | ok results => exact congrArg Except.ok (r.combinator.combine_opposite results)

/-- A set, a comparison that fails for numbers, and two conditions that cannot hold: one has no field, and
    the field of the other one is blank. -/
theorem negated_rule_with_faults_is_complement :
    let huge : Text := "0x1" ++ List.replicate 256 (CodePoint.ofChar '0')
    let first := Condition.ofTyped "tags" "IN" "a, b"
    let second := Condition.ofTyped "duration" "NOT_EQUALS" huge
    let third := Condition.ofTyped [] "IS_NULL_OR_EMPTY" "kept"
    let fourth := Condition.ofTyped " " "CONTAINS" []
    let input : RuleInput := { RuleInput.blank (.text "rule-1") with
      conditions := .entries [some first, some second, some third, some fourth] }
    ∃ r s, Rule.create input = .ok r ∧ (∀ c ∈ r.conditions, c.Reversible) ∧ r.validConditions ≠ [] ∧
      r.negate = .ok s ∧ (∀ context, s.isMatch context = (r.isMatch context).map (!·)) ∧
      s.isMatch [("duration", .int 5)] = .error .tooLarge ∧
      s.isMatch [("tags", .text "c"), ("duration", .text "5")] = .ok true := by
  intro huge first second third fourth input
  let r : Rule := ⟨"rule-1", [], 0, [], [first, second, third, fourth], .all⟩
  have made : Rule.create input = .ok r := rfl
  have reversible : ∀ c ∈ r.conditions, c.Reversible := by
    simp only [r, List.forall_mem_cons]
    refine ⟨⟨.text "tags", .text " IN ", "a, b", .isIn, .notIn, rfl, rfl, rfl⟩,
      ⟨.text "duration", .text "NOT_EQUALS", huge, .notEquals, .equals, rfl, rfl, rfl⟩,
      ⟨.null, .text "IS_NULL_OR_EMPTY", "kept", .isNullOrEmpty, .isNotNullOrEmpty, rfl, rfl, rfl⟩,
      ⟨.text " ", .text "CONTAINS", [], .contains, .notContains, rfl, rfl, rfl⟩, nofun⟩
  have some : r.validConditions ≠ [] := by decide +kernel
  obtain ⟨s, negated, opposite⟩ := negated_rule_is_complement made reversible some
  refine ⟨r, s, made, reversible, some, negated, opposite, ?_, ?_⟩
  · have fails : r.isMatch [("duration", .int 5)] = .error .tooLarge := by decide +kernel
    rw [opposite, fails]
    rfl
  · have misses : r.isMatch [("tags", .text "c"), ("duration", .text "5")] = .ok false := by
      decide +kernel
    rw [opposite, misses]
    rfl

end UnitRouting

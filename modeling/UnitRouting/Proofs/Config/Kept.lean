import UnitRouting.Proofs.Outcome
import UnitRouting.Proofs.Rule.Ranking

/-! # What a configuration keeps

A configuration leaves out the rules and conditions that never match, the combinator of a single
condition and the way values were typed. None of this bears on which rule matches. -/

namespace UnitRouting

open Outcome

namespace Condition

/-- The condition as if its value had been typed the way a configuration holds it. -/
def kept (c : Condition) : Condition :=
  { c with source := some (match ValueShape.ofName c.operator with
      | .set => Text.join ", " c.values
      | .valueless => []
      | .single => c.value.getD []) }

theorem resultIn_kept (c : Condition) (context : Fields) :
    c.kept.resultIn context = c.resultIn context := rfl

end Condition

namespace Rule

/-- The rule with its valid conditions only. A single one is not combined, and a missing name is the
    id. -/
def kept (r : Rule) : Rule where
  id := r.id
  name := if r.name.isEmpty then r.id else r.name
  priority := r.priority
  unitId := r.unitId
  conditions := r.validConditions.map Condition.kept
  combinator := if r.validConditions.length = 1 then .all else r.combinator

theorem validConditions_kept (r : Rule) :
    r.kept.validConditions = r.validConditions.map Condition.kept := by
  refine List.filter_eq_self.mpr fun c member => ?_
  obtain ⟨original, valid, rfl⟩ := List.mem_map.mp member
  exact (List.mem_filter.mp valid).2

theorem conditionResults_kept (r : Rule) (context : Fields) :
    r.kept.conditionResults context = r.conditionResults context := by
  simp only [conditionResults, validConditions_kept, List.mapM_map, Function.comp_def,
    Condition.resultIn_kept]

theorem combine_single (combinator other : Combinator) {results : List Bool}
    (single : results.length = 1) : combinator.combine results = other.combine results := by
  obtain ⟨b, rfl⟩ := List.length_eq_one_iff.mp single
  rw [Combinator.combine_singleton, Combinator.combine_singleton]

theorem combine_kept (r : Rule) {context : Fields} {results : List ConditionResult}
    (found : r.conditionResults context = .ok results) :
    r.kept.combinator.combine (results.map (·.result)) =
      r.combinator.combine (results.map (·.result)) := by
  simp only [kept]
  split
  · next single =>
      refine combine_single _ _ ?_
      rw [List.length_map, ← (mapM_eq_ok.mp found).length_eq, single]
  · rfl

/-- A rule that can match says the same of every context, kept or not. -/
theorem consider_kept {r : Rule} (evaluable : r.isEvaluable = true) (context : Fields) :
    r.kept.consider context = r.consider context := by
  simp only [isEvaluable, Bool.and_eq_true, Bool.not_eq_true'] at evaluable
  obtain ⟨unit, valid⟩ := evaluable
  have given : r.conditions.isEmpty = false := by
    cases conditions : r.conditions with
    | nil => simp [validConditions, conditions] at valid
    | cons c rest => rfl
  have unit' : r.kept.unitId.isEmpty = false := unit
  have valid' : r.kept.validConditions.isEmpty = false := by
    rw [validConditions_kept, List.isEmpty_map, valid]
  have given' : r.kept.conditions.isEmpty = false := by
    rw [kept, List.isEmpty_map, valid]
  simp only [consider, unit, unit', given, given', valid, valid', Bool.false_eq_true, if_false,
    conditionResults_kept]
  cases found : r.conditionResults context with
  | error fault => rfl
  | ok results => simp only [bind_ok, combine_kept r found]

theorem consider_unevaluable {r : Rule} (unevaluable : r.isEvaluable = false) (context : Fields) :
    ∃ verdict, r.consider context = .ok verdict ∧ verdict.isMatch = false := by
  unfold consider
  split
  · exact ⟨_, rfl, rfl⟩
  · next unit =>
      split
      · exact ⟨_, rfl, rfl⟩
      · split
        · exact ⟨_, rfl, rfl⟩
        · next valid => simp [isEvaluable, unit, valid] at unevaluable

end Rule

/-- Which rule an evaluation comes to, by its id and its unit. -/
def Engine.decision (engine : Engine) (context : Fields) : Except Fault (Option (Text × Text)) :=
  (engine.evaluate context).map fun e => e.matchedRuleId.map fun id => (id, e.unitId)

namespace Engine

/-- Which rule of a list comes out first. -/
def firstDecision (context : Fields) (rules : List Rule) : Except Fault (Option (Text × Text)) :=
  (firstMatch context rules).map fun outcome => outcome.1.map fun r => (r.id, r.unitId)

theorem decision_eq (engine : Engine) (context : Fields) :
    engine.decision context = firstDecision context engine.ordered := by
  simp only [decision, firstDecision, evaluate]
  cases firstMatch context engine.ordered with
  | error fault => rfl
  | ok outcome =>
      obtain ⟨winner, trace⟩ := outcome
      cases winner <;> rfl

theorem firstDecision_cons (context : Fields) (rule : Rule) (rest : List Rule) :
    firstDecision context (rule :: rest) = (do
      let verdict ← rule.consider context
      if verdict.isMatch then return some (rule.id, rule.unitId)
      else firstDecision context rest) := by
  simp only [firstDecision, firstMatch]
  cases rule.consider context with
  | error fault => rfl
  | ok verdict =>
      simp only [bind_ok]
      split
      · rfl
      · cases firstMatch context rest with
        | error fault => rfl
        | ok later => rfl

/-- The rules that can match decide alone, and as they are kept. -/
theorem firstDecision_kept (context : Fields) (rules : List Rule) :
    firstDecision context ((rules.filter Rule.isEvaluable).map Rule.kept) =
      firstDecision context rules := by
  induction rules with
  | nil => rfl
  | cons rule rest ih =>
      cases evaluable : rule.isEvaluable with
      | true =>
          rw [List.filter_cons, if_pos evaluable, List.map_cons, firstDecision_cons,
            firstDecision_cons, Rule.consider_kept evaluable, ih]
          rfl
      | false =>
          obtain ⟨verdict, considered, unmatched⟩ := Rule.consider_unevaluable evaluable context
          rw [List.filter_cons, evaluable, firstDecision_cons, considered, bind_ok, unmatched]
          exact ih

end Engine

namespace RuleSet

/-- What a configuration keeps of a rule set. -/
def kept (rs : RuleSet) : RuleSet where
  version := if rs.version.isEmpty then defaultVersion else rs.version
  defaultUnitId := if rs.defaultUnitId.isEmpty then fallbackUnitId else rs.defaultUnitId
  rules := (rs.rules.filter Rule.isEvaluable).map Rule.kept

theorem filled_eq_iff {t fallback : Text} (filled : fallback ≠ []) :
    (if t.isEmpty then fallback else t) = t ↔ t ≠ [] := by
  cases t with
  | nil => simp only [List.isEmpty_nil, if_true, filled, ne_eq, not_true]
  | cons c rest => simp only [List.isEmpty_cons, Bool.false_eq_true, if_false, ne_eq,
      reduceCtorEq, not_false_eq_true]

theorem version_kept_eq_iff {rs : RuleSet} : rs.kept.version = rs.version ↔ rs.version ≠ [] :=
  filled_eq_iff (List.cons_ne_nil _ _)

theorem defaultUnitId_kept_eq_iff {rs : RuleSet} :
    rs.kept.defaultUnitId = rs.defaultUnitId ↔ rs.defaultUnitId ≠ [] :=
  filled_eq_iff (List.cons_ne_nil _ _)

theorem ordered_kept (rs : RuleSet) :
    rs.kept.ordered = (rs.ordered.filter Rule.isEvaluable).map Rule.kept := by
  have same : ∀ a ∈ rs.rules.filter Rule.isEvaluable, ∀ b ∈ rs.rules.filter Rule.isEvaluable,
      decide (b.priority ≤ a.priority) = decide (b.kept.priority ≤ a.kept.priority) :=
    fun _ _ _ _ => rfl
  rw [ordered, ordered, ← Rule.inOrder_filter]
  exact (List.map_mergeSort same).symm

theorem decision_kept (rs : RuleSet) (context : Fields) :
    (Engine.ofRuleSet rs.kept).decision context = (Engine.ofRuleSet rs).decision context := by
  simp only [Engine.decision_eq, Engine.ofRuleSet, ordered_kept, Engine.firstDecision_kept]

theorem distinctIds_kept {rs : RuleSet} (distinct : DistinctIds rs.rules) :
    DistinctIds rs.kept.rules := by
  have ids : rs.kept.rules.map (·.id) = (rs.rules.filter Rule.isEvaluable).map (·.id) := by
    rw [kept, List.map_map]
    rfl
  rw [DistinctIds, ids]
  exact distinct.sublist (List.filter_sublist.map _)

end RuleSet

end UnitRouting

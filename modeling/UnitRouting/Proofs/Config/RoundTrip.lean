import UnitRouting.Proofs.Config.Reload
import UnitRouting.Proofs.Json.Written

/-! # The round trip of configuration texts

A rule set that was made by its constructors, with priorities that can be written at all, is saved
and loaded again without a difference to any context: the same rule matches, none does, or the
evaluation fails the same way. -/

namespace UnitRouting

open Outcome

theorem Value.plain_object {fields : Fields} (names : List String)
    (same : fields.names = names.map Text.ofString) (distinct : (names.map Text.ofString).Nodup)
    (plain : PlainFields fields) : (Value.object fields).Plain :=
  ⟨plain, (show fields.map (·.1) = _ from same) ▸ distinct⟩

theorem Value.plainItems_texts (texts : List Text) : PlainItems (texts.map .text) := by
  refine plainItems_iff.mpr fun item member => ?_
  obtain ⟨text, -, rfl⟩ := List.mem_map.mp member
  trivial

theorem Condition.plain_clause (c : Condition) : c.clause.Plain := by
  unfold Condition.clause
  cases ValueShape.ofName c.operator with
  | valueless =>
      exact Value.plain_object ["field", "operator"] rfl (by decide) ⟨trivial, trivial, trivial⟩
  | set =>
      exact Value.plain_object ["field", "operator", "values"] rfl (by decide)
        ⟨trivial, trivial, Value.plainItems_texts c.values, trivial⟩
  | single =>
      cases c.value <;> exact Value.plain_object ["field", "operator", "value"] rfl (by decide)
        ⟨trivial, trivial, trivial, trivial⟩

namespace Rule

theorem plain_buildConditions {r : Rule} {conditions : Value}
    (built : r.buildConditions? = some conditions) : conditions.Plain := by
  rw [buildConditions?, Condition.filterMap_build?] at built
  have plain : ∀ v ∈ (r.conditions.filter Condition.isValid).map Condition.clause, v.Plain := by
    intro v member
    obtain ⟨c, -, rfl⟩ := List.mem_map.mp member
    exact c.plain_clause
  split at built
  · cases built
  · next only =>
      cases built
      exact plain _ (by rw [only]; exact List.mem_cons_self)
  · cases built
    exact Value.plain_object ["operator", "clauses"] rfl (by decide)
      ⟨trivial, Value.plainItems_iff.mpr plain, trivial⟩

theorem plain_build {r : Rule} (fits : r.priority.natAbs < numeralBound) {v : Value}
    (built : r.build? = some v) : v.Plain := by
  unfold build? at built
  split at built
  · cases built
  · obtain ⟨conditions, builtConditions, rfl⟩ := Option.map_eq_some_iff.mp built
    have result : (Value.object [("unit_id", .text r.unitId)]).Plain :=
      Value.plain_object ["unit_id"] rfl (by decide) ⟨trivial, trivial⟩
    exact Value.plain_object ["id", "name", "priority", "conditions", "result"] rfl (by decide)
      ⟨trivial, trivial, fits, plain_buildConditions builtConditions, result, trivial⟩

end Rule

namespace RuleSet

theorem plain_build {rs : RuleSet} (fit : ∀ r ∈ rs.rules, r.priority.natAbs < numeralBound) :
    rs.build.Plain := by
  have rules : Value.PlainItems (rs.rules.filterMap Rule.build?) := by
    rw [Value.plainItems_iff]
    intro v member
    obtain ⟨r, given, built⟩ := List.mem_filterMap.mp member
    exact Rule.plain_build (fit r given) built
  have body : (Value.object [("version", .text rs.version),
      ("default_unit_id", .text rs.defaultUnitId),
      ("rules", .list (rs.rules.filterMap Rule.build?))]).Plain :=
    Value.plain_object ["version", "default_unit_id", "rules"] rfl (by decide)
      ⟨trivial, trivial, rules, trivial⟩
  exact ⟨⟨body, trivial⟩, List.pairwise_singleton _ configRootKey⟩

/-- The set, its rules and their conditions were all accepted by what makes them. -/
structure Made (rs : RuleSet) : Prop where
  set : ∃ version defaultUnitId rules, create version defaultUnitId rules = .ok rs
  rules : ∀ r ∈ rs.rules, ∃ input, Rule.create input = .ok r
  conditions : ∀ r ∈ rs.rules, ∀ c ∈ r.conditions, c.Made

theorem parse_written {document : Value} (plain : document.Plain) :
    parse (Json.Style.readable.write document) = load document := by
  rw [parse, Json.read_written rfl plain]
  rfl

/-- The text of a configuration holds what the configuration keeps. -/
theorem parse_configText {rs : RuleSet} (made : rs.Made)
    (fit : ∀ r ∈ rs.rules, r.priority.natAbs < numeralBound) :
    ∃ text, rs.configText = .ok text ∧ parse text = .ok rs.kept := by
  obtain ⟨version, defaultUnitId, rules, accepted⟩ := made.set
  have distinct : DistinctIds rs.rules := by
    obtain ⟨distinct, rfl⟩ := create_eq_ok.mp accepted
    exact distinct
  have named : ∀ r ∈ rs.rules, r.id ≠ [] := by
    intro r member
    obtain ⟨input, created⟩ := made.rules r member
    exact Rule.id_ne_nil_of_create created
  have formed : ∀ r ∈ rs.rules, ∀ c ∈ r.conditions, c.WellFormed :=
    fun r member c given => (made.conditions r member c given).wellFormed
  have printable : rs.prioritiesFit = true := by
    refine List.all_eq_true.mpr fun r member => ?_
    rw [Bool.or_eq_true, decide_eq_true_eq]
    exact .inr (fit r member)
  refine ⟨_, by rw [configText, if_pos printable], ?_⟩
  rw [parse_written (plain_build fit)]
  exact load_build distinct named formed

/-- Saving a rule set and loading it again succeeds and changes no decision. -/
theorem reload_preserves_decisions {rs : RuleSet} (made : rs.Made)
    (fit : ∀ r ∈ rs.rules, r.priority.natAbs < numeralBound) :
    ∃ text reloaded, rs.configText = .ok text ∧ parse text = .ok reloaded ∧
      ∀ context, (Engine.ofRuleSet reloaded).decision context =
        (Engine.ofRuleSet rs).decision context := by
  obtain ⟨text, written, parsed⟩ := parse_configText made fit
  exact ⟨text, rs.kept, written, parsed, rs.decision_kept⟩

/-- A draft, a rule whose second condition is not valid, and a rule with no value and no members:
    made by the constructors, and reloaded without a difference. -/
theorem reload_preserves_mixed_rules :
    let greeting : Condition := ⟨"text", "CONTAINS", some "\u00e9\n", [], some "\u00e9\n"⟩
    let blank : Condition := ⟨[], "EQUALS", none, [], some []⟩
    let nobody : Condition := ⟨"sender", "NOT_IN", none, [], some []⟩
    let rules : List Rule := [⟨"draft", "Draft", 9, [], [greeting], .all⟩,
      ⟨"either", [], 5, "unit-a", [greeting, blank], .any⟩,
      ⟨"both", "Both", -5, "unit-b", [blank, nobody, greeting], .all⟩]
    let rs : RuleSet := ⟨"1.0", [], rules⟩
    ∃ text reloaded, rs.configText = .ok text ∧ parse text = .ok reloaded ∧
      ∀ context, (Engine.ofRuleSet reloaded).decision context =
        (Engine.ofRuleSet rs).decision context := by
  intro greeting blank nobody rules rs
  have conditions : ∀ c ∈ [greeting, blank, nobody], c.Made := by
    intro c member
    simp only [List.mem_cons, List.not_mem_nil, or_false] at member
    rcases member with rfl | rfl | rfl
    · exact .created (show Condition.create (.text "text") (.text " CONTAINS")
        (.text "\u00e9\n") = _ from rfl)
    · exact .created (show Condition.create .null (.text "EQUALS") .null = _ from rfl)
    · exact .created (show Condition.create (.text "sender") (.text "NOT_IN") .null = _ from rfl)
  have small : tenTo 1 ≤ numeralBound := tenTo_le_tenTo (by decide)
  refine reload_preserves_decisions ⟨⟨"1.0", [], rules, rfl⟩, ?_, ?_⟩ ?_
  · intro r member
    refine ⟨r.toInput, Rule.create_toInput ?_⟩
    revert r
    decide
  · intro r member c given
    refine conditions c ?_
    revert c
    revert r
    decide
  · intro r member
    have short : r.priority.natAbs < tenTo 1 := by
      revert r
      decide
    exact Nat.lt_of_lt_of_le short small

end RuleSet

end UnitRouting

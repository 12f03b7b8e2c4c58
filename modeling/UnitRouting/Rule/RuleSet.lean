import UnitRouting.Rule.Basic

/-! # Rule sets

The rules in their authored order, and what holds for all of them. No two rules of a set have the
same id. -/

namespace UnitRouting

/-- A list of rules with the unit for contexts that match none of them. -/
structure RuleSet where
  version : Text
  defaultUnitId : Text
  rules : List Rule

namespace RuleSet

def defaultVersion : Text := "1.0"

/-- The unit of a rule set that names none. -/
def fallbackUnitId : Text := "nra-default-unit"

/-- The rule set without rules. -/
def empty : RuleSet := ⟨defaultVersion, fallbackUnitId, []⟩

/-- The first id that an earlier rule or one of `seen` already has. -/
def duplicateId? (seen : List Text) : List Rule → Option Text
  | [] => none
  | rule :: rest =>
    if seen.contains rule.id then some rule.id else duplicateId? (rule.id :: seen) rest

/-- No two of the rules have the same id. -/
def DistinctIds (rules : List Rule) : Prop := (rules.map (·.id)).Nodup

theorem DistinctIds.position_unique {rules : List Rule} (distinct : DistinctIds rules) {i j : Nat}
    {r s : Rule} (placedR : rules[i]? = some r) (placedS : rules[j]? = some s)
    (same : r.id = s.id) : i = j := by
  have inside : i < (rules.map (·.id)).length := by
    simpa using (List.getElem?_eq_some_iff.mp placedR).1
  refine (List.getElem?_inj inside distinct).mp ?_
  simp only [List.getElem?_map, placedR, placedS, Option.map_some, same]

theorem duplicateId?_eq_none {seen : List Text} {rules : List Rule} :
    duplicateId? seen rules = none ↔ DistinctIds rules ∧ ∀ rule ∈ rules, rule.id ∉ seen := by
  induction rules generalizing seen with
  | nil => simp [duplicateId?, DistinctIds]
  | cons rule rest ih =>
      simp only [duplicateId?, List.contains_iff_mem, DistinctIds, List.map_cons, List.nodup_cons,
        List.mem_map, List.forall_mem_cons]
      split
      · next old => simp [old]
      · next new =>
          rw [ih]
          simp only [List.mem_cons, not_or, DistinctIds]
          grind

/-- A rule set, unless two of the rules have the same id. -/
def create (version defaultUnitId : Text) (rules : List Rule) : Except Fault RuleSet :=
  match duplicateId? [] rules with
  | none => .ok ⟨version, defaultUnitId, rules⟩
  | some id => .error (.refused (.duplicateRuleId id))

theorem create_eq_ok {version defaultUnitId : Text} {rules : List Rule} {rs : RuleSet} :
    create version defaultUnitId rules = .ok rs ↔
      DistinctIds rules ∧ rs = ⟨version, defaultUnitId, rules⟩ := by
  have distinct := @duplicateId?_eq_none [] rules
  simp only [List.not_mem_nil, not_false_eq_true, implies_true, and_true] at distinct
  rw [← distinct]
  unfold create
  split
  · next none => simp [none, eq_comm]
  · next id found => simp [found]

theorem create_of_distinct {version defaultUnitId : Text} {rules : List Rule}
    (distinct : DistinctIds rules) :
    create version defaultUnitId rules = .ok ⟨version, defaultUnitId, rules⟩ :=
  create_eq_ok.mpr ⟨distinct, rfl⟩

/-- The rule set with other rules. -/
def withRules (rs : RuleSet) (rules : List Rule) : Except Fault RuleSet :=
  create rs.version rs.defaultUnitId rules

/-- The position of the rule with an id. -/
def indexOf? (rs : RuleSet) (id : Text) : Option Nat := rs.rules.findIdx? (·.id == id)

end RuleSet

end UnitRouting

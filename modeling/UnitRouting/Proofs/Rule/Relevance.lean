import Mathlib.Data.Set.Defs
import UnitRouting.Proofs.Condition.Legible
import UnitRouting.Proofs.Rule.Selection

/-! # Which fields matter

A condition looks for its field under the whole path and, behind the part before the first dot, inside
another field. It looks at nothing else at the top of a context. So the fields that no rule with a unit
refers to have no influence on an evaluation: they may come, go and change their values. -/

namespace UnitRouting

open Outcome

namespace Fields

/-- The contexts differ in fields of these names only. Such fields may be in one of them and not in the
    other, and their values have nothing to do with each other. -/
def DifferWithin (names : Set Text) (left right : Fields) : Prop :=
  ∀ name, name ∉ names → right.get? name = left.get? name

/-- A lookup depends on two fields of a context: the one that has the path as its name, and the one that
    the path begins with. -/
theorem resolve_congr {left right : Fields} {path : Text}
    (whole : right.get? path = left.get? path)
    (first : right.get? (path.before '.') = left.get? (path.before '.')) :
    right.resolve path = left.resolve path := by
  obtain ⟨rest, split⟩ := path.exists_splitOn '.'
  unfold resolve
  rw [whole]
  cases left.get? path with
  | some v => rfl
  | none => simp only [split, Value.follow, first]

end Fields

/-- The condition refers to a name at the top of a context: its field has the name, or has it in front
    of the first dot. -/
def Condition.RefersTo (c : Condition) (name : Text) : Prop :=
  name = c.field ∨ name = c.field.before '.'

instance (c : Condition) (name : Text) : Decidable (c.RefersTo name) :=
  inferInstanceAs (Decidable (name = c.field ∨ name = c.field.before '.'))

/-- A rule that can be picked refers to the name: it has a unit, and one of its valid conditions does. -/
def RuleSet.RefersTo (rs : RuleSet) (name : Text) : Prop :=
  ∃ r ∈ rs.rules, r.unitId ≠ [] ∧ ∃ c ∈ r.validConditions, c.RefersTo name

instance (rs : RuleSet) (name : Text) : Decidable (rs.RefersTo name) :=
  inferInstanceAs (Decidable (∃ r ∈ rs.rules, r.unitId ≠ [] ∧ ∃ c ∈ r.validConditions, c.RefersTo name))

variable {names : Set Text} {left right : Fields}

theorem Condition.evaluate_of_differWithin {c : Condition} (unused : ∀ name ∈ names, ¬ c.RefersTo name)
    (differ : Fields.DifferWithin names left right) : c.evaluate right = c.evaluate left := by
  have same {name : Text} (referred : c.RefersTo name) : right.get? name = left.get? name :=
    differ name fun member => unused name member referred
  have resolved : right.resolve c.field = left.resolve c.field :=
    Fields.resolve_congr (same (.inl rfl)) (same (.inr rfl))
  exact evaluate_congr rfl rfl rfl Iff.rfl resolved

namespace Rule

variable {r : Rule}

theorem conditionResults_congr
    (same : ∀ c ∈ r.validConditions, c.evaluate right = c.evaluate left) :
    r.conditionResults right = r.conditionResults left := by
  apply mapM_congr
  intro c valid
  rw [Condition.resultIn, same c valid, Condition.resultIn]

/-- What becomes of a rule depends on its valid conditions, and on those only if it has a unit. -/
theorem consider_congr
    (same : r.unitId ≠ [] → ∀ c ∈ r.validConditions, c.evaluate right = c.evaluate left) :
    r.consider right = r.consider left := by
  unfold consider
  split
  · rfl
  · next unit =>
      have results : r.conditionResults right = r.conditionResults left :=
        conditionResults_congr (same fun draft => unit (List.isEmpty_iff.mpr draft))
      rw [results]

end Rule

namespace Engine

variable {rules : List Rule}

theorem firstMatch_congr (same : ∀ r ∈ rules, r.consider right = r.consider left) :
    firstMatch right rules = firstMatch left rules := by
  induction rules with
  | nil => rfl
  | cons rule rest ih =>
      obtain ⟨here, later⟩ := List.forall_mem_cons.mp same
      rw [firstMatch, firstMatch, here, ih later]

theorem warningsFrom_congr (same : ∀ r ∈ rules, r.consider right = r.consider left) :
    warningsFrom right rules = warningsFrom left rules := by
  induction rules with
  | nil => rfl
  | cons rule rest ih =>
      obtain ⟨here, later⟩ := List.forall_mem_cons.mp same
      rw [warningsFrom, warningsFrom, here, ih later]

end Engine

/-- Fields that no rule with a unit refers to have no influence. In contexts that differ in such fields
    only, the evaluation has the same outcome, that is the same unit, the same winner and the same trace,
    or the same fault, and it gives the same warnings. -/
theorem unreferred_fields_have_no_influence {rs : RuleSet}
    (unreferred : ∀ name ∈ names, ¬ rs.RefersTo name)
    (differ : Fields.DifferWithin names left right) :
    (Engine.ofRuleSet rs).evaluate right = (Engine.ofRuleSet rs).evaluate left ∧
      (Engine.ofRuleSet rs).warnings right = (Engine.ofRuleSet rs).warnings left := by
  have considered : ∀ r ∈ rs.ordered, r.consider right = r.consider left := by
    intro r member
    apply Rule.consider_congr
    intro unit c valid
    apply Condition.evaluate_of_differWithin _ differ
    intro name unused referred
    exact unreferred name unused ⟨r, List.mem_mergeSort.mp member, unit, c, valid, referred⟩
  constructor
  · simp only [Engine.evaluate, Engine.ofRuleSet, Engine.firstMatch_congr considered]
  · exact Engine.warningsFrom_congr considered

/-- A rule without a unit refers to the note and a condition without an operator to the tag, and the
    region is looked for inside the caller. -/
theorem note_tag_and_outer_region_have_no_influence :
    let draft : Rule := ⟨"draft", [], 9, [], [⟨"note", "EQUALS", some "1", [], none⟩], .all⟩
    let regional : Rule := ⟨"regional", "Regional", 5, "unit-1",
      [⟨"caller.region", "EQUALS", some "EMEA", [], none⟩, ⟨"tag", [], some "x", [], none⟩], .all⟩
    let rs : RuleSet := ⟨"1.0", "unit-0", [draft, regional]⟩
    let names : List Text := ["note", "tag", "region"]
    let caller : Value := .object [("region", .text "EMEA")]
    let left : Fields := [("note", .int 1), ("caller", caller), ("region", .null)]
    let right : Fields := [("tag", .text "y"), ("note", .list []), ("caller", caller)]
    (∀ name ∈ names, ¬ rs.RefersTo name) ∧ Fields.DifferWithin {name | name ∈ names} left right ∧
      ∃ e, (Engine.ofRuleSet rs).evaluate left = .ok e ∧ e.Picks regional ∧
        (Engine.ofRuleSet rs).evaluate right = .ok e := by
  intro draft regional rs names caller left right
  have unreferred : ∀ name ∈ names, ¬ rs.RefersTo name := by decide
  have differ : Fields.DifferWithin {name | name ∈ names} left right := by
    intro name other
    have apart : name ∉ names := other
    simp only [names, List.mem_cons, List.not_mem_nil, or_false, not_or] at apart
    obtain ⟨note, tag, region⟩ := apart
    simp only [left, right, Fields.get?, if_neg (Ne.symm note), if_neg (Ne.symm tag),
      if_neg (Ne.symm region)]
  obtain ⟨trace, found⟩ : ∃ trace,
      Engine.firstMatch left rs.rules = .ok (some regional, trace) := ⟨_, rfl⟩
  have evaluated : (Engine.ofRuleSet rs).evaluate left = .ok ⟨"unit-1", some regional, trace⟩ :=
    Engine.evaluate_of_firstMatch (by decide) found
  refine ⟨unreferred, differ, _, evaluated, ⟨rfl, rfl, rfl⟩, ?_⟩
  rw [← evaluated]
  exact (unreferred_fields_have_no_influence unreferred differ).1

end UnitRouting

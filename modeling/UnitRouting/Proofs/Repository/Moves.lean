import UnitRouting.Proofs.Repository.Reachable
import UnitRouting.Proofs.Rule.Placed
import UnitRouting.Proofs.Rule.Reordering

/-! # Moving rules

A move swaps two rules of the list or does nothing. The order of the list bears on evaluations only
where rules have the same priority, so moves among rules of distinct priorities are of no
consequence, however many there are and wherever they lead. -/

namespace UnitRouting

open Outcome

namespace RuleSet

/-- The rule sets differ in the order of their rules, if in anything. -/
structure Rearranged (rs next : RuleSet) : Prop where
  version : next.version = rs.version
  defaultUnitId : next.defaultUnitId = rs.defaultUnitId
  rules : rs.rules.Perm next.rules

theorem Rearranged.refl (rs : RuleSet) : rs.Rearranged rs := ⟨rfl, rfl, List.Perm.refl _⟩

theorem Rearranged.trans {rs mid next : RuleSet} (first : rs.Rearranged mid)
    (second : mid.Rearranged next) : rs.Rearranged next :=
  ⟨second.version.trans first.version, second.defaultUnitId.trans first.defaultUnitId,
    first.rules.trans second.rules⟩

variable {rs next : RuleSet}

theorem rearranged_of_moveRule {id direction : Value} (moved : rs.moveRule id direction = .ok next) :
    rs.Rearranged next := by
  obtain ⟨index, -, moved⟩ := bind_eq_ok.mp moved
  obtain ⟨target, -, moved⟩ := bind_eq_ok.mp moved
  cases target with
  | none =>
      cases moved
      exact .refl rs
  | some target =>
      obtain ⟨-, rfl⟩ := create_eq_ok.mp moved
      exact ⟨rfl, rfl, (swapped_perm rs.rules index target).symm⟩

theorem moveRule_succeeds (distinct : DistinctIds rs.rules) {r : Rule} (present : r ∈ rs.rules)
    (n : Int) : ∃ next, rs.moveRule (.text r.id) (.int n) = .ok next := by
  cases moved : rs.moveRule (.text r.id) (.int n) with
  | ok next => exact ⟨next, rfl⟩
  | error fault =>
      rcases (moveRule_eq_error distinct).mp moved with ⟨-, absent⟩ | ⟨i, s, -, -, led⟩
      · exact absurd rfl (absent r present)
      · cases led

end RuleSet

namespace Engine

/-- An evaluation depends on nothing but the default unit and the rules in order. -/
theorem evaluate_congr {rs rs' : RuleSet} (unit : rs.defaultUnitId = rs'.defaultUnitId)
    (ordered : rs.ordered = rs'.ordered) (context : Fields) :
    (ofRuleSet rs).evaluate context = (ofRuleSet rs').evaluate context := by
  simp only [evaluate, ofRuleSet, unit, ordered]

theorem evaluate_reordered {rs rs' : RuleSet} (distinct : RuleSet.DistinctIds rs.rules)
    (unit : rs.defaultUnitId = rs'.defaultUnitId) (reordered : Rule.Reordered rs.rules rs'.rules)
    (context : Fields) :
    (ofRuleSet rs).evaluate context = (ofRuleSet rs').evaluate context := by
  apply evaluate_congr unit
  apply Rule.inOrder_eq_iff.mpr
  exact reordered.ofPriority_eq (List.Nodup.of_map _ distinct)

end Engine

namespace Repository

variable {repo : Repository}

theorem rearranged_step (repo : Repository) (id direction : Value) :
    repo.ruleSet.Rearranged (repo.step (.moveRule id direction)).ruleSet := by
  rw [step_eq_leaves, Command.authoring, Authoring.leaves_mutate]
  cases moved : repo.ruleSet.moveRule id direction with
  | ok next => exact RuleSet.rearranged_of_moveRule moved
  | error fault => exact .refl _

/-- Moves of rules, each by an integer. -/
def movesOf (moves : List (Value × Int)) : List Command :=
  moves.map fun move => .moveRule move.1 (.int move.2)

theorem rearranged_after (repo : Repository) (moves : List (Value × Int)) :
    repo.ruleSet.Rearranged (repo.after (movesOf moves)).ruleSet := by
  induction moves generalizing repo with
  | nil => exact .refl _
  | cons move later ih => exact (repo.rearranged_step move.1 (.int move.2)).trans (ih _)

theorem Sound.after_moves {P : Rule → Prop} (lasting : RuleSet.Lasting P) (sound : repo.Sound P)
    (moves : List (Value × Int)) : (repo.after (movesOf moves)).Sound P := by
  induction moves generalizing repo with
  | nil => exact sound
  | cons move later ih => exact ih (sound.step lasting trivial)

theorem evaluate_after_moves (sound : repo.Sound fun _ => True)
    (distinct : repo.ruleSet.rules.Pairwise fun a b => a.priority ≠ b.priority)
    (moves : List (Value × Int)) (context : Fields) :
    (repo.after (movesOf moves)).engine.evaluate context = repo.engine.evaluate context := by
  have later : (repo.after (movesOf moves)).Sound fun _ => True :=
    sound.after_moves (fun _ _ _ _ _ _ => trivial) moves
  have rearranged := repo.rearranged_after moves
  have reordered := Rule.reordered_of_distinct distinct rearranged.rules
  rw [later.engine, sound.engine]
  exact (Engine.evaluate_reordered sound.rules.distinct rearranged.defaultUnitId.symm reordered
    context).symm

theorem answer_moveRule (distinct : RuleSet.DistinctIds repo.ruleSet.rules) {r : Rule}
    (present : r ∈ repo.ruleSet.rules) (n : Int) :
    repo.answer (.moveRule (.text r.id) (.int n)) =
      .ok (.ofOrder (repo.step (.moveRule (.text r.id) (.int n))).ruleSet) := by
  obtain ⟨next, moved⟩ := RuleSet.moveRule_succeeds distinct present n
  rw [answer, step, Command.authoring, Authoring.run_mutate, moved]
  rfl

end Repository

/-- The order of the list matters only among rules of the same priority: rule sets with the same
    default unit and the same rules, those of each priority in the same order, give the same result
    for every context, trace included. A move changes at most the order of the rules, and by an
    integer it succeeds for every rule that there is. So where priorities are distinct, no moves
    whatever change any evaluation. -/
theorem order_matters_within_priority_only :
    (∀ rs rs' : RuleSet, rs.Constructed → rs.defaultUnitId = rs'.defaultUnitId →
      Rule.Reordered rs.rules rs'.rules → ∀ context,
        (Engine.ofRuleSet rs).evaluate context = (Engine.ofRuleSet rs').evaluate context) ∧
    ∀ repo : Repository, repo.Reachable RuleSet.Constructed Command.Constructed →
      (∀ id direction : Value,
        repo.ruleSet.Rearranged (repo.step (.moveRule id direction)).ruleSet) ∧
      (∀ r ∈ repo.ruleSet.rules, ∀ n : Int, repo.answer (.moveRule (.text r.id) (.int n)) =
        .ok (.ofOrder (repo.step (.moveRule (.text r.id) (.int n))).ruleSet)) ∧
      ((repo.ruleSet.rules.Pairwise fun a b => a.priority ≠ b.priority) →
        ∀ (moves : List (Value × Int)) (context : Fields),
          (repo.after (Repository.movesOf moves)).engine.evaluate context =
            repo.engine.evaluate context) := by
  constructor
  · intro rs rs' constructed unit reordered context
    exact Engine.evaluate_reordered constructed.sound.distinct unit reordered context
  · intro repo reached
    have sound := reached.constructed
    refine ⟨repo.rearranged_step, ?_, ?_⟩
    · intro r present n
      exact Repository.answer_moveRule sound.rules.distinct present n
    · intro distinct moves context
      exact Repository.evaluate_after_moves sound distinct moves context

/-- Three rules, two of them of the same priority, in two orders; and two rules of different
    priorities, which are moved to and fro, off the list and by an id that no rule has. -/
theorem reordered_rules_decide_alike :
    let sales : Condition := ⟨"queue", "EQUALS", some "sales", [], some "sales"⟩
    let first : Rule := ⟨"first", "First", 10, "unit-1", [sales], .all⟩
    let low : Rule := ⟨"low", "Low", 5, "unit-2", [sales], .all⟩
    let second : Rule := ⟨"second", "Second", 10, "unit-3", [sales], .all⟩
    let context : Fields := [("queue", .text "sales")]
    let repo := Repository.ofRuleSet ⟨"1.0", "none", [first, low]⟩
    let moves : List (Value × Int) :=
      [(.text "first", 1), (.text "first", -7), (.text "nobody", 1), (.null, 2)]
    (Engine.ofRuleSet ⟨"1.0", "none", [first, low, second]⟩).evaluate context =
        (Engine.ofRuleSet ⟨"2.0", "none", [low, first, second]⟩).evaluate context ∧
      (repo.after (Repository.movesOf moves)).ruleSet.rules = [low, first] ∧
      repo.answer (.moveRule (.text "low") (.int (-1))) = .ok (.order ["low", "first"]) ∧
      (repo.after (Repository.movesOf moves)).engine.evaluate context =
        repo.engine.evaluate context := by
  intro sales first low second context repo moves
  have constructed (rules : List Rule) (distinct : RuleSet.DistinctIds rules) :
      RuleSet.Constructed ⟨"1.0", "none", rules⟩ :=
    ⟨_, _, rules, RuleSet.create_of_distinct distinct⟩
  have apart : first.priority ≠ low.priority := by decide
  have reached : repo.Reachable RuleSet.Constructed Command.Constructed :=
    .start (constructed [first, low] (by unfold RuleSet.DistinctIds; decide))
  obtain ⟨alike, cosmetic⟩ := order_matters_within_priority_only
  obtain ⟨rearranged, answered, indifferent⟩ := cosmetic repo reached
  have distinct : repo.ruleSet.rules.Pairwise fun a b => a.priority ≠ b.priority :=
    List.pairwise_pair.mpr apart
  refine ⟨?_, by decide +kernel, ?_, indifferent distinct moves context⟩
  · have constructedThree :=
      constructed [first, low, second] (by unfold RuleSet.DistinctIds; decide)
    exact alike _ ⟨"2.0", "none", [low, first, second]⟩ constructedThree rfl
      (Rule.reordered_swap apart [second]) context
  · exact answered low (List.mem_cons_of_mem first (List.mem_singleton_self low)) (-1)

end UnitRouting

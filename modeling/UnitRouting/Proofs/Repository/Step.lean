import UnitRouting.Proofs.Repository.Numbering
import UnitRouting.Proofs.Rule.Edit

/-! # Steps of the repository

What one command does to a sound repository. It leads to a sound one again; where it meets a fault it
leaves no trace, neither in the rule set nor in the counter, and the fault is one to be expected of
its arguments, never that two rules have the same id. -/

namespace UnitRouting

open Outcome

/-- The rule set is sound, and the engine is the one of the rule set. -/
structure Repository.Sound (P : Rule → Prop) (repo : Repository) : Prop where
  rules : repo.ruleSet.Sound P
  engine : repo.engine = .ofRuleSet repo.ruleSet

theorem Repository.sound_ofRuleSet {P : Rule → Prop} {rs : RuleSet} (sound : rs.Sound P) :
    (Repository.ofRuleSet rs).Sound P :=
  ⟨sound, rfl⟩

/-- How work that began at a repository ends: well, or with a harmless fault and the repository as it
    was. -/
inductive Repository.Ends {ε α : Type} (harmless : ε → Prop) (good : α → Repository → Prop)
    (repo : Repository) : EStateM.Result ε Repository α → Prop where
  | ok {a : α} {next : Repository} (here : good a next) : Ends harmless good repo (.ok a next)
  | error {e : ε} (here : harmless e) : Ends harmless good repo (.error e repo)

theorem Repository.Ends.ok_or_error {ε α : Type} {harmless : ε → Prop}
    {good : α → Repository → Prop} {repo : Repository} {result : EStateM.Result ε Repository α}
    (ends : Ends harmless good repo result) :
    (∃ a next, result = .ok a next ∧ good a next) ∨ ∃ e, result = .error e repo ∧ harmless e := by
  cases ends with
  | ok here => exact .inl ⟨_, _, rfl, here⟩
  | error here => exact .inr ⟨_, rfl, here⟩

theorem Repository.ruleSet_count (repo : Repository) (n : Nat) :
    (repo.count n).ruleSet = repo.ruleSet := rfl

namespace Authoring

open Repository (Ends)

variable {P : Rule → Prop} {proper : Prop} {α β : Type}

/-- Of a sound repository the work makes a sound one, or it meets a fault that is to be expected. -/
def Keeps (P : Rule → Prop) (proper : Prop) (work : Authoring α) : Prop :=
  ∀ repo : Repository, repo.Sound P →
    Ends (Fault.Expected proper) (fun _ next => next.Sound P) repo (work.run repo)

theorem run_ofExcept {ε σ : Type} (result : Except ε α) (state : σ) :
    (MonadExcept.ofExcept result : EStateM ε σ α).run state =
      match result with
      | .ok a => .ok a state
      | .error fault => .error fault state := by
  cases result <;> rfl

theorem run_mutate (change : RuleSet → Except Fault (RuleSet × α)) (repo : Repository) :
    (mutate change).run repo =
      match change repo.ruleSet with
      | .ok (rs, answer) => .ok answer (repo.commit rs)
      | .error fault => .error fault repo := by
  simp only [mutate, EStateM.run_bind, EStateM.run_get, run_ofExcept]
  cases change repo.ruleSet <;> rfl

theorem run_addRule (edit : RuleEdit) (repo : Repository) :
    (addRule edit).run repo =
      match Repository.newRule repo.nextNumber edit with
      | .ok rule => (mutate fun rs => (rs.withRules (rs.rules ++ [rule])).map fun next =>
          (next, rule)).run (repo.count repo.nextNumber)
      | .error fault => .error fault repo := by
  simp only [addRule, EStateM.run_bind, EStateM.run_get, run_ofExcept]
  cases Repository.newRule repo.nextNumber edit <;> rfl

theorem run_replaceAll (rs : RuleSet) (repo : Repository) :
    (replaceAll rs).run repo =
      .ok ⟨⟩ ((repo.commit rs).count (max repo.counter rs.rules.length)) := rfl

/-- The repository that work leaves behind, whether or not it meets a fault. -/
def leaves (work : Authoring α) (repo : Repository) : Repository :=
  match work.run repo with
  | .ok _ next | .error _ next => next

theorem leaves_answer (work : Authoring α) (f : α → β) (repo : Repository) :
    leaves (work >>= fun a => pure (f a)) repo = work.leaves repo := by
  simp only [leaves, EStateM.run_bind]
  cases work.run repo <;> rfl

theorem leaves_mutate (change : RuleSet → Except Fault (RuleSet × α)) (repo : Repository) :
    (mutate change).leaves repo =
      match change repo.ruleSet with
      | .ok (rs, _) => repo.commit rs
      | .error _ => repo := by
  rw [leaves, run_mutate]
  cases change repo.ruleSet <;> rfl

theorem run_mutate_answer {change : RuleSet → Except Fault (RuleSet × α)} {repo : Repository}
    {rs : RuleSet} {a : α} (changed : change repo.ruleSet = .ok (rs, a)) (f : α → β) :
    (mutate change >>= fun a => pure (f a)).run repo = .ok (f a) (repo.commit rs) := by
  rw [EStateM.run_bind, run_mutate, changed]
  rfl

theorem mutate_keeps {change : RuleSet → Except Fault (RuleSet × α)}
    (settles : ∀ rs, rs.Sound P →
      Settles (Fault.Expected proper) (fun next => next.1.Sound P) (change rs)) :
    Keeps P proper (mutate change) := by
  intro repo sound
  have changed := settles repo.ruleSet sound.rules
  rw [run_mutate]
  cases made : change repo.ruleSet with
  | ok answer => exact .ok ⟨changed.of_ok made, rfl⟩
  | error fault => exact .error (changed.of_error made)

theorem Keeps.answer {work : Authoring α} (keeps : Keeps P proper work) (f : α → β) :
    Keeps P proper (work >>= fun a => pure (f a)) := by
  intro repo sound
  rcases (keeps repo sound).ok_or_error with ⟨a, next, run, here⟩ | ⟨fault, run, other⟩
  · rw [EStateM.run_bind, run]
    exact .ok here
  · rw [EStateM.run_bind, run]
    exact .error other

theorem sound_added {repo : Repository} (sound : repo.Sound P) {edit : RuleEdit} {rule : Rule}
    (made : Repository.newRule repo.nextNumber edit = .ok rule) (has : P rule) :
    RuleSet.Sound P
      ⟨repo.ruleSet.version, repo.ruleSet.defaultUnitId, repo.ruleSet.rules ++ [rule]⟩ := by
  constructor
  · rw [RuleSet.DistinctIds, List.map_append, List.map_singleton, Repository.id_of_newRule made]
    refine List.nodup_append.mpr ⟨sound.rules.distinct, List.pairwise_singleton _ _, ?_⟩
    intro old member new last same
    rw [List.mem_singleton.mp last] at same
    exact repo.nextNumber_free (same ▸ member)
  · intro r member
    rcases List.mem_append.mp member with old | new
    · exact sound.rules.each r old
    · exact List.mem_singleton.mp new ▸ has

theorem addRule_keeps {edit : RuleEdit}
    (makes : ∀ n r, Repository.newRule n edit = .ok r → P r) :
    Keeps P (edit.Proper ∧ edit.unknown = []) (addRule edit) := by
  intro repo sound
  rw [run_addRule]
  cases made : Repository.newRule repo.nextNumber edit with
  | error fault => exact .error ((Repository.newRule_expected _ edit).of_error made)
  | ok rule =>
      have grown := sound_added sound made (makes _ rule made)
      have added : repo.ruleSet.withRules (repo.ruleSet.rules ++ [rule]) = .ok _ :=
        RuleSet.create_of_distinct grown.distinct
      simp only [run_mutate, Repository.ruleSet_count, added, Except.map]
      exact .ok ⟨grown, rfl⟩

theorem replaceAll_keeps {rs : RuleSet} (sound : rs.Sound P) :
    Keeps P proper (replaceAll rs) := by
  intro repo _
  rw [run_replaceAll]
  exact .ok ⟨sound, rfl⟩

end Authoring

theorem Repository.step_eq_leaves (repo : Repository) (command : Command) :
    repo.step command = command.authoring.leaves repo := by
  rw [step, Authoring.leaves]
  cases command.authoring.run repo <;> rfl

namespace Command

/-- What the command hands over keeps a property of rules. -/
def Respects (P : Rule → Prop) : Command → Prop
  | .addRule edit => ∀ n r, Repository.newRule n edit = .ok r → P r
  | .updateRule _ edit => ∀ r s, P r → r.withChanges edit = .ok s → P s
  | .replaceAll rs => rs.Sound P
  | _ => True

/-- The arguments are of the kinds that the command has a meaning for, and can be shown. -/
def Proper : Command → Prop
  | .addRule edit => edit.Proper ∧ edit.unknown = []
  | .updateRule id edit => id.Fits ∧ edit.Proper
  | .deleteRule id | .addCondition id _ _ _ => id.Fits
  | .moveRule id direction => id.Fits ∧ direction.isWhole = true
  | .updateCondition id index _ | .removeCondition id index =>
    id.Fits ∧ index.Fits ∧ index.isWhole = true
  | .setDefaultUnitId value | .setVersion value => value.Fits
  | .replaceAll _ => True

/-- A command keeps repositories sound. Where it meets a fault it leaves no trace of itself, and the
    fault is one to be expected of its arguments. -/
theorem authoring_keeps {P : Rule → Prop} (lasting : RuleSet.Lasting P) {command : Command}
    (respects : command.Respects P) : Authoring.Keeps P command.Proper command.authoring := by
  cases command with
  | addRule edit => exact (Authoring.addRule_keeps respects).answer _
  | updateRule id edit =>
      exact (Authoring.mutate_keeps fun rs sound =>
        RuleSet.updateRule_settles sound id respects).answer _
  | deleteRule id =>
      exact Authoring.mutate_keeps fun rs sound =>
        (RuleSet.deleteRule_settles sound id).map fun _ sound => sound
  | moveRule id direction =>
      exact Authoring.mutate_keeps fun rs sound =>
        (RuleSet.moveRule_settles sound id direction).map fun _ sound => sound
  | addCondition id field operator value =>
      exact (Authoring.mutate_keeps fun rs sound =>
        RuleSet.addCondition_settles lasting sound id field operator value).answer _
  | updateCondition id index changes =>
      exact (Authoring.mutate_keeps fun rs sound =>
        RuleSet.updateCondition_settles lasting sound id index changes).answer _
  | removeCondition id index =>
      exact (Authoring.mutate_keeps fun rs sound =>
        RuleSet.removeCondition_settles lasting sound id index).answer _
  | setDefaultUnitId value =>
      exact Authoring.mutate_keeps fun rs sound =>
        (RuleSet.setDefaultUnitId_settles sound value).map fun _ sound => sound
  | setVersion value =>
      exact Authoring.mutate_keeps fun rs sound =>
        (RuleSet.setVersion_settles sound value).map fun _ sound => sound
  | replaceAll rs => exact (Authoring.replaceAll_keeps respects).answer _

end Command

theorem RuleSet.mem_of_replaceRule {rs next : RuleSet} {id : Value}
    {change : Rule → Except Fault Rule} {r : Rule}
    (replaced : rs.replaceRule id change = .ok (next, r)) : r ∈ next.rules := by
  obtain ⟨index, old, -, placed, -, accepted⟩ := RuleSet.replaceRule_eq_ok.mp replaced
  obtain ⟨-, rfl⟩ := RuleSet.create_eq_ok.mp accepted
  exact List.mem_set (List.getElem?_eq_some_iff.mp placed).1 r

namespace Authoring

theorem mutate_eq_ok {α : Type} {change : RuleSet → Except Fault (RuleSet × α)}
    {repo next : Repository} {a : α} (run : (mutate change).run repo = .ok a next) :
    change repo.ruleSet = .ok (next.ruleSet, a) := by
  rw [run_mutate] at run
  cases changed : change repo.ruleSet with
  | error fault =>
      rw [changed] at run
      cases run
  | ok answer =>
      rw [changed] at run
      cases run
      rfl

theorem addRule_eq_ok {edit : RuleEdit} {repo next : Repository} {r : Rule}
    (run : (addRule edit).run repo = .ok r next) :
    Repository.newRule repo.nextNumber edit = .ok r ∧
      next = (repo.count repo.nextNumber).commit
        ⟨repo.ruleSet.version, repo.ruleSet.defaultUnitId, repo.ruleSet.rules ++ [r]⟩ := by
  rw [run_addRule] at run
  cases made : Repository.newRule repo.nextNumber edit with
  | error fault =>
      rw [made] at run
      cases run
  | ok rule =>
      simp only [made, run_mutate, Repository.ruleSet_count] at run
      cases accepted : repo.ruleSet.withRules (repo.ruleSet.rules ++ [rule]) with
      | error fault =>
          simp only [accepted, Except.map] at run
          cases run
      | ok rs =>
          simp only [accepted, Except.map] at run
          cases run
          obtain ⟨-, rfl⟩ := RuleSet.create_eq_ok.mp accepted
          exact ⟨rfl, rfl⟩

theorem rule_of_answer {work : Authoring Rule} {repo next : Repository} {r : Rule}
    (run : (work >>= fun rule => pure (Reply.rule rule)).run repo = .ok (.rule r) next) :
    work.run repo = .ok r next := by
  rw [EStateM.run_bind] at run
  cases done : work.run repo with
  | error fault state =>
      rw [done] at run
      cases run
  | ok rule state =>
      rw [done] at run
      cases run
      rfl

end Authoring

theorem Command.mem_of_answered {command : Command} {repo next : Repository} {r : Rule}
    (run : command.authoring.run repo = .ok (.rule r) next) : r ∈ next.ruleSet.rules := by
  cases command with
  | addRule edit =>
      obtain ⟨-, rfl⟩ := Authoring.addRule_eq_ok (Authoring.rule_of_answer run)
      exact List.mem_append_right _ List.mem_cons_self
  | updateRule id edit =>
      exact RuleSet.mem_of_replaceRule (Authoring.mutate_eq_ok (Authoring.rule_of_answer run))
  | addCondition id field operator value =>
      have added := Authoring.mutate_eq_ok (Authoring.rule_of_answer run)
      obtain ⟨condition, -, replaced⟩ := bind_eq_ok.mp added
      exact RuleSet.mem_of_replaceRule replaced
  | updateCondition id index changes =>
      exact RuleSet.mem_of_replaceRule (Authoring.mutate_eq_ok (Authoring.rule_of_answer run))
  | removeCondition id index =>
      exact RuleSet.mem_of_replaceRule (Authoring.mutate_eq_ok (Authoring.rule_of_answer run))
  | deleteRule | moveRule | setDefaultUnitId | setVersion =>
      rw [authoring] at run
      obtain ⟨_, -, same⟩ := map_eq_ok.mp (Authoring.mutate_eq_ok run)
      cases same
  | replaceAll rs => cases run

end UnitRouting

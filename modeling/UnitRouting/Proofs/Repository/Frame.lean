import UnitRouting.Proofs.Repository.Moves
import UnitRouting.Proofs.Rule.Named

/-! # What commands leave alone

A command that succeeds changes what it names and nothing else. A rule is made again whenever it is
edited, but from what it shows it is made as it was, so the attributes that an edit does not give
stay as they are. -/

namespace UnitRouting

open Outcome

/-- An attribute after an edit: read from the value that is given, or else as it was. -/
def RuleEdit.Sets {α β : Type} (read : α → Except Fault β) (given : Option α) (old new : β) :
    Prop :=
  match given with
  | none => new = old
  | some v => read v = .ok new

theorem RuleEdit.sets_of_getD {α β : Type} {read : α → Except Fault β} {given : Option α} {base : α}
    {old new : β} (readBack : read base = .ok old) (made : read (given.getD base) = .ok new) :
    Sets read given old new := by
  cases given with
  | none =>
      rw [Option.getD_none, readBack] at made
      exact (Except.ok.inj made).symm
  | some v => exact made

/-- An edit makes one rule of another: it sets the attributes that it gives. -/
structure RuleEdit.Changes (edit : RuleEdit) (r s : Rule) : Prop where
  id : s.id = r.id
  name : Sets Value.labelText edit.name r.name s.name
  priority : Sets Value.priority edit.priority r.priority s.priority
  unitId : Sets Value.labelText edit.unitId r.unitId s.unitId
  combinator : Sets Value.combinator edit.combinator r.combinator s.combinator
  conditions : Sets ConditionsInput.conditions edit.conditions r.conditions s.conditions

theorem Rule.changes_of_withChanges {r s : Rule} {edit : RuleEdit}
    (changed : r.withChanges edit = .ok s) : edit.Changes r s := by
  obtain ⟨-, priority, combinator, unitId, name, conditions⟩ :=
    create_eq_ok.mp (withChanges_eq_ok.mp changed).2
  exact ⟨id_of_withChanges changed, RuleEdit.sets_of_getD rfl name,
    RuleEdit.sets_of_getD rfl priority, RuleEdit.sets_of_getD rfl unitId,
    RuleEdit.sets_of_getD (Value.combinator_name _) combinator,
    RuleEdit.sets_of_getD (ConditionsInput.conditions_eq_ok.mpr rfl) conditions⟩

/-- The position that an index stands for; truth values stand for zero and one. -/
def Value.index? : Value → Option Nat
  | .int n => if 0 ≤ n then some n.toNat else none
  | .bool b => some b.toNat
  | _ => none

theorem RuleSet.conditionIndex_eq_ok {r : Rule} {index : Value} {i : Nat} :
    conditionIndex r index = .ok i ↔ index.index? = some i ∧ i < r.conditions.length := by
  have missing : (index.display >>= fun shown => .error (.conditionNotFound r.id shown)) ≠
      (.ok i : Except Fault Nat) := by
    cases index.display <;> simp
  have within (n : Int) : (if 0 ≤ n ∧ n < (r.conditions.length : Int) then .ok n.toNat
      else index.display >>= fun shown => .error (.conditionNotFound r.id shown)) =
        (.ok i : Except Fault Nat) ↔ n = i ∧ i < r.conditions.length := by
    split
    · simp only [Except.ok.injEq]
      omega
    · simp only [missing, false_iff]
      omega
  cases index with
  | int n =>
      refine (within n).trans ?_
      simp only [Value.index?]
      split
      · simp only [Option.some.injEq]
        omega
      · simp only [reduceCtorEq, false_and, iff_false]
        omega
  | bool b =>
      refine (within (if b then 1 else 0)).trans ?_
      cases b
      · simp only [Value.index?, Bool.false_eq_true, if_false, Bool.toNat_false, Option.some.injEq]
        omega
      · simp only [Value.index?, if_true, Bool.toNat_true, Option.some.injEq]
        omega
  | float x =>
      simp only [conditionIndex, Value.index?, reduceCtorEq, false_and, iff_false]
      split
      · split
        · exact missing
        · simp only [reduceCtorEq, not_false_eq_true]
      · exact missing
  | _ => simp [conditionIndex, Value.index?]

namespace RuleSet

variable {rs next : RuleSet} {id : Value} {i : Nat} {s : Rule}

theorem exists_of_find (found : rs.find id = .ok i) :
    ∃ r, rs.rules[i]? = some r ∧ id = .text r.id := by
  unfold find at found
  split at found
  · next position =>
      cases found
      cases id with
      | text t =>
          obtain ⟨inside, same, -⟩ := List.findIdx?_eq_some_iff_getElem.mp position
          exact ⟨rs.rules[i], List.getElem?_eq_getElem inside,
            congrArg Value.text (beq_iff_eq.mp same).symm⟩
      | _ => cases position
  · obtain ⟨shown, -, failed⟩ := bind_eq_ok.mp found
    cases failed

theorem around_of_replaceRule {change : Rule → Except Fault Rule}
    (replaced : rs.replaceRule id change = .ok (next, s)) :
    ∃ front r back, rs.rules = front ++ r :: back ∧ id = .text r.id ∧ change r = .ok s ∧
      next = { rs with rules := front ++ s :: back } := by
  obtain ⟨i, r, found, placed, changed, accepted⟩ := replaceRule_eq_ok.mp replaced
  obtain ⟨r', placed', named⟩ := exists_of_find found
  obtain rfl : r = r' := Option.some.inj (placed.symm.trans placed')
  obtain ⟨front, back, stands, rfl⟩ := exists_around placed
  obtain ⟨-, rfl⟩ := create_eq_ok.mp accepted
  exact ⟨front, r, back, stands, named, changed, by simp [stands]⟩

theorem around_of_deleteRule (deleted : rs.deleteRule id = .ok next) :
    ∃ front r back, rs.rules = front ++ r :: back ∧ id = .text r.id ∧
      next = { rs with rules := front ++ back } := by
  obtain ⟨i, found, accepted⟩ := bind_eq_ok.mp deleted
  obtain ⟨r, placed, named⟩ := exists_of_find found
  obtain ⟨front, back, stands, rfl⟩ := exists_around placed
  obtain ⟨-, rfl⟩ := create_eq_ok.mp accepted
  refine ⟨front, r, back, stands, named, ?_⟩
  rw [stands, List.eraseIdx_append_of_length_le (Nat.le_refl _)]
  simp

end RuleSet

namespace Authoring

variable {α β : Type} {repo next : Repository} {a : α} {b : β}

theorem run_mutate_eq_ok {change : RuleSet → Except Fault (RuleSet × α)} :
    (mutate change).run repo = .ok a next ↔
      ∃ rs, change repo.ruleSet = .ok (rs, a) ∧ next = repo.commit rs := by
  rw [run_mutate]
  cases change repo.ruleSet with
  | error fault => simp
  | ok answer =>
      constructor
      · intro run
        cases run
        exact ⟨answer.1, rfl, rfl⟩
      · intro made
        obtain ⟨rs, ⟨⟩, rfl⟩ := made
        rfl

theorem run_answer_eq_ok {work : Authoring α} {f : α → β} :
    (work >>= fun a => pure (f a)).run repo = .ok b next ↔
      ∃ a, work.run repo = .ok a next ∧ b = f a := by
  rw [EStateM.run_bind]
  cases work.run repo with
  | error fault state => simp
  | ok a state =>
      constructor
      · intro run
        cases run
        exact ⟨a, rfl, rfl⟩
      · intro made
        obtain ⟨a, ⟨⟩, rfl⟩ := made
        rfl

theorem run_mutate_map_eq_ok {change : RuleSet → Except Fault RuleSet} {f : RuleSet → α} :
    (mutate fun rs => (change rs).map fun made => (made, f made)).run repo = .ok a next ↔
      ∃ rs, change repo.ruleSet = .ok rs ∧ a = f rs ∧ next = repo.commit rs := by
  rw [run_mutate_eq_ok]
  cases change repo.ruleSet with
  | error fault => simp [Except.map]
  | ok rs => simp [Except.map, eq_comm, and_assoc]

end Authoring

namespace Repository

/-- The repository with other rules. -/
def commitRules (repo : Repository) (rules : List Rule) : Repository :=
  repo.commit { repo.ruleSet with rules }

/-- What a command that succeeds answers, and where it leads. An edited rule stays where it stands,
    between the rules in front of it and behind it, and so does an edited condition. -/
inductive Effect (repo : Repository) : Command → Reply → Repository → Prop where
  | added {edit : RuleEdit} {r : Rule} (made : newRule repo.nextNumber edit = .ok r) :
      Effect repo (.addRule edit) (.rule r)
        ((repo.count repo.nextNumber).commitRules (repo.ruleSet.rules ++ [r]))
  | updated {edit : RuleEdit} {front back : List Rule} {r s : Rule}
      (stands : repo.ruleSet.rules = front ++ r :: back) (changes : edit.Changes r s) :
      Effect repo (.updateRule (.text r.id) edit) (.rule s) (repo.commitRules (front ++ s :: back))
  | deleted {front back : List Rule} {r : Rule}
      (stands : repo.ruleSet.rules = front ++ r :: back) :
      Effect repo (.deleteRule (.text r.id)) .deleted (repo.commitRules (front ++ back))
  | stayed {direction : Value} {i : Nat} {r : Rule} (placed : repo.ruleSet.rules[i]? = some r)
      (beyond : RuleSet.target? i repo.ruleSet.rules.length direction = .ok none) :
      Effect repo (.moveRule (.text r.id) direction) (.ofOrder repo.ruleSet)
        (repo.commit repo.ruleSet)
  | moved {direction : Value} {i j : Nat} {r : Rule} (placed : repo.ruleSet.rules[i]? = some r)
      (led : RuleSet.target? i repo.ruleSet.rules.length direction = .ok (some j)) :
      Effect repo (.moveRule (.text r.id) direction)
        (.order ((RuleSet.swapped repo.ruleSet.rules i j).map (·.id)))
        (repo.commitRules (RuleSet.swapped repo.ruleSet.rules i j))
  | conditionAdded {field operator value : Value} {front back : List Rule} {r s : Rule}
      {c : Condition} (stands : repo.ruleSet.rules = front ++ r :: back)
      (made : Condition.create field operator value = .ok c)
      (edited : s = { r with conditions := r.conditions ++ [c] }) :
      Effect repo (.addCondition (.text r.id) field operator value) (.rule s)
        (repo.commitRules (front ++ s :: back))
  | conditionUpdated {index : Value} {changes : Fields} {front back : List Rule} {r s : Rule}
      {before after : List Condition} {c d : Condition}
      (stands : repo.ruleSet.rules = front ++ r :: back)
      (holds : r.conditions = before ++ c :: after) (place : index.index? = some before.length)
      (changed : c.withChanges changes = .ok d)
      (edited : s = { r with conditions := before ++ d :: after }) :
      Effect repo (.updateCondition (.text r.id) index changes) (.rule s)
        (repo.commitRules (front ++ s :: back))
  | conditionRemoved {index : Value} {front back : List Rule} {r s : Rule}
      {before after : List Condition} {c : Condition}
      (stands : repo.ruleSet.rules = front ++ r :: back)
      (holds : r.conditions = before ++ c :: after) (place : index.index? = some before.length)
      (edited : s = { r with conditions := before ++ after }) :
      Effect repo (.removeCondition (.text r.id) index) (.rule s)
        (repo.commitRules (front ++ s :: back))
  | defaultUnitIdSet {value : Value} {text : Text} (shown : value.display = .ok text) :
      Effect repo (.setDefaultUnitId value) (.setting text)
        (repo.commit { repo.ruleSet with defaultUnitId := text })
  | versionSet {value : Value} {text : Text} (shown : value.display = .ok text) :
      Effect repo (.setVersion value) (.setting text)
        (repo.commit { repo.ruleSet with version := text })
  | replaced {rs : RuleSet} :
      Effect repo (.replaceAll rs) (.ofOrder rs)
        ((repo.commit rs).count (max repo.counter rs.rules.length))

variable {repo next : Repository} {command : Command} {reply : Reply}

theorem effect_of_addRule {edit : RuleEdit} {r : Rule}
    (run : (Authoring.addRule edit).run repo = .ok r next) :
    Effect repo (.addRule edit) (.rule r) next := by
  obtain ⟨made, rfl⟩ := Authoring.addRule_eq_ok run
  exact .added made

theorem effect_of_moveRule {id direction : Value} {rs : RuleSet}
    (moved : repo.ruleSet.moveRule id direction = .ok rs) :
    Effect repo (.moveRule id direction) (.ofOrder rs) (repo.commit rs) := by
  obtain ⟨i, found, rest⟩ := bind_eq_ok.mp moved
  obtain ⟨r, placed, rfl⟩ := RuleSet.exists_of_find found
  obtain ⟨target, led, accepted⟩ := bind_eq_ok.mp rest
  cases target with
  | none =>
      cases accepted
      exact .stayed placed led
  | some j =>
      obtain ⟨-, rfl⟩ := RuleSet.create_eq_ok.mp accepted
      exact .moved placed led

theorem effect_of_addCondition {id field operator value : Value} {rs : RuleSet} {s : Rule}
    (added : repo.ruleSet.addCondition id field operator value = .ok (rs, s)) :
    Effect repo (.addCondition id field operator value) (.rule s) (repo.commit rs) := by
  obtain ⟨c, made, replaced⟩ := bind_eq_ok.mp added
  obtain ⟨front, r, back, stands, rfl, changed, rfl⟩ := RuleSet.around_of_replaceRule replaced
  exact .conditionAdded stands made (Rule.eq_of_withChanges_ofConditions changed)

theorem effect_of_updateCondition {id index : Value} {changes : Fields} {rs : RuleSet} {s : Rule}
    (updated : repo.ruleSet.updateCondition id index changes = .ok (rs, s)) :
    Effect repo (.updateCondition id index changes) (.rule s) (repo.commit rs) := by
  obtain ⟨front, r, back, stands, rfl, changed, rfl⟩ := RuleSet.around_of_replaceRule updated
  obtain ⟨i, position, changed⟩ := bind_eq_ok.mp changed
  obtain ⟨place, inside⟩ := RuleSet.conditionIndex_eq_ok.mp position
  have placed : r.conditions[i]? = some r.conditions[i] := List.getElem?_eq_getElem inside
  obtain ⟨before, after, holds, rfl⟩ := RuleSet.exists_around placed
  rw [placed] at changed
  obtain ⟨d, made, changed⟩ := bind_eq_ok.mp changed
  have edited := Rule.eq_of_withChanges_ofConditions changed
  rw [holds, List.set_append_right _ _ (Nat.le_refl _), Nat.sub_self, List.set_cons_zero] at edited
  exact .conditionUpdated stands holds place made edited

theorem effect_of_removeCondition {id index : Value} {rs : RuleSet} {s : Rule}
    (removed : repo.ruleSet.removeCondition id index = .ok (rs, s)) :
    Effect repo (.removeCondition id index) (.rule s) (repo.commit rs) := by
  obtain ⟨front, r, back, stands, rfl, changed, rfl⟩ := RuleSet.around_of_replaceRule removed
  obtain ⟨i, position, changed⟩ := bind_eq_ok.mp changed
  obtain ⟨place, inside⟩ := RuleSet.conditionIndex_eq_ok.mp position
  obtain ⟨before, after, holds, rfl⟩ := RuleSet.exists_around (List.getElem?_eq_getElem inside)
  have edited := Rule.eq_of_withChanges_ofConditions changed
  rw [holds, List.eraseIdx_append_of_length_le (Nat.le_refl _), Nat.sub_self,
    List.eraseIdx_cons_zero] at edited
  exact .conditionRemoved stands holds place edited

theorem effect_of_run (run : command.authoring.run repo = .ok reply next) :
    Effect repo command reply next := by
  cases command with
  | addRule edit =>
      obtain ⟨r, added, rfl⟩ := Authoring.run_answer_eq_ok.mp run
      exact effect_of_addRule added
  | updateRule id edit =>
      obtain ⟨s, updated, rfl⟩ := Authoring.run_answer_eq_ok.mp run
      obtain ⟨rs, made, rfl⟩ := Authoring.run_mutate_eq_ok.mp updated
      obtain ⟨front, r, back, stands, rfl, changed, rfl⟩ := RuleSet.around_of_replaceRule made
      exact .updated stands (Rule.changes_of_withChanges changed)
  | deleteRule id =>
      rw [Command.authoring] at run
      obtain ⟨rs, deleted, rfl, rfl⟩ := Authoring.run_mutate_map_eq_ok.mp run
      obtain ⟨front, r, back, stands, rfl, rfl⟩ := RuleSet.around_of_deleteRule deleted
      exact .deleted stands
  | moveRule id direction =>
      rw [Command.authoring] at run
      obtain ⟨rs, moved, rfl, rfl⟩ := Authoring.run_mutate_map_eq_ok.mp run
      exact effect_of_moveRule moved
  | addCondition id field operator value =>
      obtain ⟨s, added, rfl⟩ := Authoring.run_answer_eq_ok.mp run
      obtain ⟨rs, made, rfl⟩ := Authoring.run_mutate_eq_ok.mp added
      exact effect_of_addCondition made
  | updateCondition id index changes =>
      obtain ⟨s, updated, rfl⟩ := Authoring.run_answer_eq_ok.mp run
      obtain ⟨rs, made, rfl⟩ := Authoring.run_mutate_eq_ok.mp updated
      exact effect_of_updateCondition made
  | removeCondition id index =>
      obtain ⟨s, removed, rfl⟩ := Authoring.run_answer_eq_ok.mp run
      obtain ⟨rs, made, rfl⟩ := Authoring.run_mutate_eq_ok.mp removed
      exact effect_of_removeCondition made
  | setDefaultUnitId value =>
      rw [Command.authoring] at run
      obtain ⟨rs, set, rfl, rfl⟩ := Authoring.run_mutate_map_eq_ok.mp run
      obtain ⟨text, shown, accepted⟩ := bind_eq_ok.mp set
      obtain ⟨-, rfl⟩ := RuleSet.create_eq_ok.mp accepted
      exact .defaultUnitIdSet shown
  | setVersion value =>
      rw [Command.authoring] at run
      obtain ⟨rs, set, rfl, rfl⟩ := Authoring.run_mutate_map_eq_ok.mp run
      obtain ⟨text, shown, accepted⟩ := bind_eq_ok.mp set
      obtain ⟨-, rfl⟩ := RuleSet.create_eq_ok.mp accepted
      exact .versionSet shown
  | replaceAll rs =>
      cases run
      exact .replaced

theorem Effect.counter (effect : repo.Effect command reply next)
    (adds : ∀ edit, command ≠ .addRule edit) (replaces : ∀ rs, command ≠ .replaceAll rs) :
    next.counter = repo.counter := by
  cases effect with
  | added => exact absurd rfl (adds _)
  | replaced => exact absurd rfl (replaces _)
  | _ => rfl

end Repository

/-- A command that is answered changes what it names and leaves everything else as it is: the other
    rules and their order, the attributes that are not given, the other conditions, the settings.
    The counter moves with new rules and new rule sets only. -/
theorem answered_command_changes_what_it_names {repo : Repository} {command : Command}
    {reply : Reply} (answered : repo.answer command = .ok reply) :
    repo.Effect command reply (repo.step command) ∧
      ((∀ edit, command ≠ .addRule edit) → (∀ rs, command ≠ .replaceAll rs) →
        (repo.step command).counter = repo.counter) := by
  have run : command.authoring.run repo = .ok reply (repo.step command) := by
    rw [Repository.answer] at answered
    rw [Repository.step]
    cases run : command.authoring.run repo with
    | error fault state =>
        rw [run] at answered
        cases answered
    | ok made state =>
        rw [run] at answered
        cases answered
        rfl
  have effect := Repository.effect_of_run run
  exact ⟨effect, effect.counter⟩

/-- The second of three conditions is edited. -/
theorem condition_edit_changes_what_it_names :
    let sales : Condition := ⟨"queue", "EQUALS", some "sales", [], some "sales"⟩
    let ann : Condition := ⟨"agent", "EQUALS", some "Ann", [], some "Ann"⟩
    let bob : Condition := ⟨"agent", "EQUALS", some "Bob", [], some "Bob"⟩
    let first : Rule := ⟨"first", "First", 10, "unit-1", [sales], .all⟩
    let second : Rule := ⟨"second", "Second", 5, "unit-2", [sales, ann, sales], .any⟩
    let edited : Rule := ⟨"second", "Second", 5, "unit-2", [sales, bob, sales], .any⟩
    let repo := Repository.ofRuleSet ⟨"1.0", "none", [first, second]⟩
    let command : Command := .updateCondition (.text "second") (.bool true) [("value", .text "Bob")]
    repo.answer command = .ok (.rule edited) ∧
      repo.Effect command (.rule edited) (repo.step command) ∧ (repo.step command).counter = 2 := by
  intro sales ann bob first second edited repo command
  have answered : repo.answer command = .ok (.rule edited) := by with_unfolding_all rfl
  obtain ⟨effect, counter⟩ := answered_command_changes_what_it_names answered
  exact ⟨answered, effect, counter nofun nofun⟩

end UnitRouting

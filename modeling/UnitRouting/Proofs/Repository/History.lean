import UnitRouting.Proofs.Config.RoundTrip
import UnitRouting.Proofs.Repository.Reachable

/-! # Ids over the history of a repository

The counter never falls, and a new rule takes a number above it. So of the ids that were ever in use,
a new rule can only have one that came with a rule set: a rule set raises the counter to as many rules
as it has, but the ids of these rules may have higher numbers. -/

namespace UnitRouting

open Outcome

namespace RuleSet

/-- The ids of the rules in their authored order. -/
def ids (rs : RuleSet) : List Text := rs.rules.map (·.id)

variable {rs next : RuleSet}

theorem ids_of_create {version defaultUnitId : Text} {rules : List Rule}
    (made : create version defaultUnitId rules = .ok next) : next.ids = rules.map (·.id) := by
  obtain ⟨-, rfl⟩ := create_eq_ok.mp made
  rfl

theorem ids_of_replaceRule {id : Value} {change : Rule → Except Fault Rule} {r : Rule}
    (same : ∀ old new, change old = .ok new → new.id = old.id)
    (replaced : rs.replaceRule id change = .ok (next, r)) : next.ids ⊆ rs.ids := by
  obtain ⟨index, old, -, placed, made, accepted⟩ := replaceRule_eq_ok.mp replaced
  rw [ids_of_create accepted]
  intro used member
  obtain ⟨s, given, rfl⟩ := List.mem_map.mp member
  rcases List.mem_or_eq_of_mem_set given with stays | rfl
  · exact List.mem_map_of_mem stays
  · rw [same old s made]
    exact List.mem_map_of_mem (List.mem_of_getElem? placed)

theorem ids_of_deleteRule {id : Value} (deleted : rs.deleteRule id = .ok next) :
    next.ids ⊆ rs.ids := by
  obtain ⟨index, -, accepted⟩ := bind_eq_ok.mp deleted
  rw [ids_of_create accepted]
  exact List.map_subset _ (List.eraseIdx_sublist rs.rules index).subset

theorem ids_of_moveRule {id direction : Value} (moved : rs.moveRule id direction = .ok next) :
    next.ids ⊆ rs.ids := by
  obtain ⟨index, -, moved⟩ := bind_eq_ok.mp moved
  obtain ⟨target, -, moved⟩ := bind_eq_ok.mp moved
  cases target with
  | none =>
      cases moved
      exact List.Subset.refl _
  | some target =>
      rw [ids_of_create moved]
      exact List.map_subset _ (swapped_perm rs.rules index target).subset

theorem ids_of_addCondition {id field operator value : Value} {r : Rule}
    (added : rs.addCondition id field operator value = .ok (next, r)) : next.ids ⊆ rs.ids := by
  obtain ⟨condition, -, replaced⟩ := bind_eq_ok.mp added
  exact ids_of_replaceRule (fun _ _ changed => Rule.id_of_withChanges changed) replaced

theorem ids_of_updateCondition {id index : Value} {changes : Fields} {r : Rule}
    (updated : rs.updateCondition id index changes = .ok (next, r)) : next.ids ⊆ rs.ids := by
  refine ids_of_replaceRule (fun old new changed => ?_) updated
  obtain ⟨i, -, changed⟩ := bind_eq_ok.mp changed
  cases placed : old.conditions[i]? with
  | none =>
      rw [placed] at changed
      cases changed
  | some c =>
      rw [placed] at changed
      obtain ⟨condition, -, changed⟩ := bind_eq_ok.mp changed
      exact Rule.id_of_withChanges changed

theorem ids_of_removeCondition {id index : Value} {r : Rule}
    (removed : rs.removeCondition id index = .ok (next, r)) : next.ids ⊆ rs.ids := by
  refine ids_of_replaceRule (fun old new changed => ?_) removed
  obtain ⟨i, -, changed⟩ := bind_eq_ok.mp changed
  exact Rule.id_of_withChanges changed

theorem ids_of_setDefaultUnitId {value : Value} (set : rs.setDefaultUnitId value = .ok next) :
    next.ids ⊆ rs.ids := by
  obtain ⟨text, -, accepted⟩ := bind_eq_ok.mp set
  rw [ids_of_create accepted]
  exact List.Subset.refl _

theorem ids_of_setVersion {value : Value} (set : rs.setVersion value = .ok next) :
    next.ids ⊆ rs.ids := by
  obtain ⟨text, -, accepted⟩ := bind_eq_ok.mp set
  rw [ids_of_create accepted]
  exact List.Subset.refl _

end RuleSet

namespace Repository

variable {repo : Repository} {command : Command}

/-- Where one command may lead: nowhere, to rules with no other ids than before, to the next number
    with or without the rule that it was for, or to the rules of a set. -/
inductive Advances (repo : Repository) : Command → Repository → Prop where
  | nowhere {command : Command} : Advances repo command repo
  | edited {command : Command} {rs : RuleSet} (known : rs.ids ⊆ repo.ruleSet.ids) :
      Advances repo command (repo.commit rs)
  | counted {edit : RuleEdit} : Advances repo (.addRule edit) (repo.count repo.nextNumber)
  | added {edit : RuleEdit} {rs : RuleSet}
      (new : rs.ids = repo.ruleSet.ids ++ [numberedId repo.nextNumber]) :
      Advances repo (.addRule edit) ((repo.count repo.nextNumber).commit rs)
  | replaced {rs : RuleSet} :
      Advances repo (.replaceAll rs) ((repo.commit rs).count (max repo.counter rs.rules.length))

theorem advances_of_mutate {α : Type} {change : RuleSet → Except Fault (RuleSet × α)}
    (known : ∀ rs a, change repo.ruleSet = .ok (rs, a) → rs.ids ⊆ repo.ruleSet.ids) :
    Advances repo command ((Authoring.mutate change).leaves repo) := by
  rw [Authoring.leaves_mutate]
  cases changed : change repo.ruleSet with
  | ok answer => exact .edited (known answer.1 answer.2 changed)
  | error fault => exact .nowhere

/-- What is answered about the new rule set does not bear on where the change leads. -/
theorem advances_of_map {α : Type} {change : RuleSet → Except Fault RuleSet} {f : RuleSet → α}
    (known : ∀ rs, change repo.ruleSet = .ok rs → rs.ids ⊆ repo.ruleSet.ids) :
    Advances repo command
      ((Authoring.mutate fun rs => (change rs).map fun next => (next, f next)).leaves repo) := by
  refine advances_of_mutate fun rs a answered => ?_
  obtain ⟨next, changed, same⟩ := map_eq_ok.mp answered
  cases same
  exact known rs changed

theorem advances_of_addRule (edit : RuleEdit) :
    Advances repo (.addRule edit) ((Authoring.addRule edit).leaves repo) := by
  rw [Authoring.leaves, Authoring.run_addRule]
  cases made : newRule repo.nextNumber edit with
  | error fault => exact .nowhere
  | ok rule =>
      simp only [Authoring.run_mutate, ruleSet_count]
      cases accepted : repo.ruleSet.withRules (repo.ruleSet.rules ++ [rule]) with
      | error fault => exact .counted
      | ok rs =>
          refine .added ?_
          rw [RuleSet.ids_of_create accepted, List.map_append, List.map_singleton,
            id_of_newRule made]
          rfl

theorem advances_step (repo : Repository) (command : Command) :
    Advances repo command (repo.step command) := by
  rw [step_eq_leaves]
  cases command with
  | addRule edit =>
      rw [Command.authoring, Authoring.leaves_answer]
      exact advances_of_addRule edit
  | updateRule id edit =>
      rw [Command.authoring, Authoring.leaves_answer]
      exact advances_of_mutate fun _ _ => RuleSet.ids_of_replaceRule fun _ _ => Rule.id_of_withChanges
  | deleteRule id =>
      rw [Command.authoring]
      exact advances_of_map fun _ => RuleSet.ids_of_deleteRule
  | moveRule id direction =>
      rw [Command.authoring]
      exact advances_of_map fun _ => RuleSet.ids_of_moveRule
  | addCondition id field operator value =>
      rw [Command.authoring, Authoring.leaves_answer]
      exact advances_of_mutate fun _ _ => RuleSet.ids_of_addCondition
  | updateCondition id index changes =>
      rw [Command.authoring, Authoring.leaves_answer]
      exact advances_of_mutate fun _ _ => RuleSet.ids_of_updateCondition
  | removeCondition id index =>
      rw [Command.authoring, Authoring.leaves_answer]
      exact advances_of_mutate fun _ _ => RuleSet.ids_of_removeCondition
  | setDefaultUnitId value =>
      rw [Command.authoring]
      exact advances_of_map fun _ => RuleSet.ids_of_setDefaultUnitId
  | setVersion value =>
      rw [Command.authoring]
      exact advances_of_map fun _ => RuleSet.ids_of_setVersion
  | replaceAll rs => exact .replaced

theorem le_freeFrom (used : List Text) (steps n : Nat) : n ≤ freeFrom used steps n := by
  induction steps generalizing n with
  | zero => exact Nat.le_refl n
  | succ steps ih =>
      unfold freeFrom
      split
      · exact Nat.le_trans (Nat.le_succ n) (ih (n + 1))
      · exact Nat.le_refl n

theorem counter_lt_nextNumber (repo : Repository) : repo.counter < repo.nextNumber :=
  le_freeFrom _ _ (repo.counter + 1)

theorem Advances.counter_le {next : Repository} (advances : Advances repo command next) :
    repo.counter ≤ next.counter := by
  cases advances with
  | nowhere | edited => exact Nat.le_refl _
  | counted | added => exact Nat.le_of_lt repo.counter_lt_nextNumber
  | replaced => exact Nat.le_max_left _ _

theorem after_concat (repo : Repository) (commands : List Command) (command : Command) :
    repo.after (commands ++ [command]) = (repo.after commands).step command :=
  List.foldl_append

theorem counter_le_after (repo : Repository) (commands : List Command) :
    repo.counter ≤ (repo.after commands).counter := by
  induction commands generalizing repo with
  | nil => exact Nat.le_refl _
  | cons command rest ih =>
      exact Nat.le_trans (repo.advances_step command).counter_le (ih (repo.step command))

/-- The id has a number that was given, or it came with a rule set that was counted. -/
def Accounted (origin : RuleSet → Prop) (repo : Repository) (id : Text) : Prop :=
  (∃ n ≤ repo.counter, id = numberedId n) ∨
    ∃ loaded, origin loaded ∧ loaded.rules.length ≤ repo.counter ∧ id ∈ loaded.ids

variable {origin origin' : RuleSet → Prop}

theorem Accounted.mono {later : Repository} {id : Text} (accounted : Accounted origin repo id)
    (grows : repo.counter ≤ later.counter) (more : ∀ loaded, origin loaded → origin' loaded) :
    Accounted origin' later id := by
  rcases accounted with ⟨n, given, rfl⟩ | ⟨loaded, from_, counted, member⟩
  · exact .inl ⟨n, Nat.le_trans given grows, rfl⟩
  · exact .inr ⟨loaded, more loaded from_, Nat.le_trans counted grows, member⟩

theorem Advances.accounted {next : Repository} (advances : Advances repo command next)
    (before : ∀ id ∈ repo.ruleSet.ids, Accounted origin repo id) :
    ∀ id ∈ next.ruleSet.ids,
      Accounted (fun loaded => origin loaded ∨ command = .replaceAll loaded) next id := by
  have grows := advances.counter_le
  have old {id : Text} (stays : id ∈ repo.ruleSet.ids) :
      Accounted (fun loaded => origin loaded ∨ command = .replaceAll loaded) next id :=
    (before id stays).mono grows fun _ => .inl
  intro id member
  cases advances with
  | nowhere | counted => exact old member
  | edited known => exact old (known member)
  | added new =>
      replace member := new ▸ member
      rcases List.mem_append.mp member with stays | numbered
      · exact old stays
      · exact .inl ⟨repo.nextNumber, Nat.le_refl _, List.mem_singleton.mp numbered⟩
  | replaced => exact .inr ⟨_, .inr rfl, Nat.le_max_right _ _, member⟩

/-- The rule set is the one of the start or one that a command put in its place. -/
def Origin (rs : RuleSet) (commands : List Command) (loaded : RuleSet) : Prop :=
  loaded = rs ∨ .replaceAll loaded ∈ commands

theorem accounted_after (rs : RuleSet) (commands : List Command) :
    ∀ id ∈ ((ofRuleSet rs).after commands).ruleSet.ids,
      Accounted (Origin rs commands) ((ofRuleSet rs).after commands) id := by
  induction commands using List.reverseRecOn with
  | nil => exact fun id member => .inr ⟨rs, .inl rfl, Nat.le_refl _, member⟩
  | append_singleton commands command ih =>
      rw [after_concat]
      intro id member
      refine ((advances_step _ command).accounted ih id member).mono (Nat.le_refl _) ?_
      rintro loaded ((rfl | early) | rfl)
      · exact .inl rfl
      · exact .inr (List.mem_append_left _ early)
      · exact .inr (List.mem_append_right _ List.mem_cons_self)

theorem answer_eq_ok {reply : Reply} :
    repo.answer command = .ok reply ↔ ∃ next, command.authoring.run repo = .ok reply next := by
  rw [answer]
  cases command.authoring.run repo <;> simp

theorem step_of_added {edit : RuleEdit} {r : Rule}
    (answered : repo.answer (.addRule edit) = .ok (.rule r)) :
    newRule repo.nextNumber edit = .ok r ∧
      (repo.step (.addRule edit)).counter = repo.nextNumber := by
  obtain ⟨next, run⟩ := answer_eq_ok.mp answered
  obtain ⟨made, rfl⟩ := Authoring.addRule_eq_ok (Authoring.rule_of_answer run)
  exact ⟨made, by rw [step, run]; rfl⟩

theorem id_of_added {edit : RuleEdit} {r : Rule}
    (answered : repo.answer (.addRule edit) = .ok (.rule r)) : r.id = numberedId repo.nextNumber :=
  id_of_newRule (step_of_added answered).1

theorem answer_addRule (sound : repo.Sound fun _ => True) {edit : RuleEdit} {r : Rule}
    (made : newRule repo.nextNumber edit = .ok r) :
    repo.answer (.addRule edit) = .ok (.rule r) := by
  have grown := Authoring.sound_added sound made trivial
  have accepted : repo.ruleSet.withRules (repo.ruleSet.rules ++ [r]) = .ok _ :=
    RuleSet.create_of_distinct grown.distinct
  rw [answer, Command.authoring, EStateM.run_bind, Authoring.run_addRule, made]
  simp only [Authoring.run_mutate, ruleSet_count, accepted, Except.map]
  rfl

end Repository

/-- A new rule has an id that was in use before only if the id came with a rule set, from the start or
    in a replacement, and has a number above the number of rules of that set. -/
theorem id_used_again_only_if_loaded {rs : RuleSet} {before between : List Command} {edit : RuleEdit}
    {r : Rule} (used : r.id ∈ ((Repository.ofRuleSet rs).after before).ruleSet.ids)
    (answered : (((Repository.ofRuleSet rs).after before).after between).answer (.addRule edit) =
      .ok (.rule r)) :
    ∃ loaded n, (loaded = rs ∨ .replaceAll loaded ∈ before) ∧ r.id ∈ loaded.ids ∧
      r.id = Repository.numberedId n ∧ loaded.rules.length < n := by
  have numbered := Repository.id_of_added answered
  have above : ((Repository.ofRuleSet rs).after before).counter <
      (((Repository.ofRuleSet rs).after before).after between).nextNumber :=
    Nat.lt_of_le_of_lt (Repository.counter_le_after _ between) (Repository.counter_lt_nextNumber _)
  rcases Repository.accounted_after rs before r.id used with
    ⟨n, given, same⟩ | ⟨loaded, origin, counted, member⟩
  · have := Repository.numberedId_injective (numbered.symm.trans same)
    omega
  · exact ⟨loaded, _, origin, member, numbered, Nat.lt_of_le_of_lt counted above⟩

/-- The edit that asks for nothing. -/
def RuleEdit.nothing : RuleEdit := ⟨none, none, none, none, none, []⟩

theorem Repository.newRule_nothing (n : Nat) : ∃ r, newRule n .nothing = .ok r := ⟨_, rfl⟩

/-- A document with two rules, the second of which has number three. -/
def RuleSet.sparseDocument : Value :=
  .object [(configRootKey, .object [("rules", .list [.object [("id", .text "rule-1")],
    .object [("id", .text "rule-3")]])])]

def RuleSet.sparse : RuleSet :=
  ⟨"1.0", "nra-default-unit", [⟨"rule-1", "rule-1", 0, [], [], .all⟩,
    ⟨"rule-3", "rule-3", 0, [], [], .all⟩]⟩

/-- A rule is added, the rules are replaced, the one with number three is deleted, and a rule is
    added. -/
theorem id_used_again_after_replacement :
    let before := [.addRule .nothing, .replaceAll RuleSet.sparse]
    let repo := (Repository.empty.after before).after [.deleteRule (.text "rule-3")]
    ∃ r, repo.answer (.addRule .nothing) = .ok (.rule r) ∧
      ∃ loaded n, (loaded = .empty ∨ .replaceAll loaded ∈ before) ∧ r.id ∈ loaded.ids ∧
        r.id = Repository.numberedId n ∧ loaded.rules.length < n := by
  intro before repo
  obtain ⟨r, made⟩ := Repository.newRule_nothing repo.nextNumber
  have sound : repo.Sound fun _ => True := ⟨⟨List.nodup_singleton _, fun _ _ => trivial⟩, rfl⟩
  have answered := Repository.answer_addRule sound made
  have used : r.id ∈ (Repository.empty.after before).ruleSet.ids := by
    rw [Repository.id_of_newRule made]
    decide +kernel
  exact ⟨r, answered, id_used_again_only_if_loaded used answered⟩

/-- The last of two loaded rules is deleted and a rule is added: it has the id of the deleted one. -/
theorem deleted_loaded_id_used_again :
    let repo := (Repository.ofRuleSet RuleSet.sparse).step (.deleteRule (.text "rule-3"))
    RuleSet.parse (Json.Style.readable.write RuleSet.sparseDocument) = .ok RuleSet.sparse ∧
      ∃ r, repo.answer (.addRule .nothing) = .ok (.rule r) ∧ r.id = "rule-3" ∧
        r.id ∈ (Repository.ofRuleSet RuleSet.sparse).ruleSet.ids := by
  intro repo
  have plain : RuleSet.sparseDocument.Plain :=
    Value.plain_object ["unit_mapping_rules"] rfl (by decide)
      ⟨Value.plain_object ["rules"] rfl (by decide)
        ⟨⟨Value.plain_object ["id"] rfl (by decide) ⟨trivial, trivial⟩,
          Value.plain_object ["id"] rfl (by decide) ⟨trivial, trivial⟩, trivial⟩, trivial⟩, trivial⟩
  have parsed : RuleSet.parse (Json.Style.readable.write RuleSet.sparseDocument) =
      .ok RuleSet.sparse := by
    rw [RuleSet.parse_written plain]
    rfl
  obtain ⟨r, made⟩ := Repository.newRule_nothing repo.nextNumber
  have sound : repo.Sound fun _ => True := ⟨⟨List.nodup_singleton _, fun _ _ => trivial⟩, rfl⟩
  have id : r.id = "rule-3" := by
    rw [Repository.id_of_newRule made]
    decide +kernel
  refine ⟨parsed, r, Repository.answer_addRule sound made, id, ?_⟩
  rw [id]
  decide

end UnitRouting

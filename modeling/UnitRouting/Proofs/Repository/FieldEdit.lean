import UnitRouting.Proofs.Condition.Legible
import UnitRouting.Proofs.Repository.Reachable
import UnitRouting.Proofs.Rule.Placed

/-! # Edits of the field alone

A condition that is put on another field keeps its operator. It keeps its value too, and says of the
new field what it said of the old one, exactly if the value can be read off its text. -/

namespace UnitRouting

namespace Repository

variable {repo : Repository}

theorem updateCondition_of_accepted {id index : Value} {changes : Fields} {rs : RuleSet} {s : Rule}
    (changed : repo.ruleSet.updateCondition id index changes = .ok (rs, s)) :
    repo.answer (.updateCondition id index changes) = .ok (.rule s) ∧
      repo.step (.updateCondition id index changes) = repo.commit rs := by
  have run : (Command.updateCondition id index changes).authoring.run repo =
      .ok (.rule s) (repo.commit rs) := Authoring.run_mutate_answer changed Reply.rule
  rw [answer, step, run]
  exact ⟨rfl, rfl⟩

end Repository

/-- In every repository that authors arrive at, an edit of nothing but the field of a condition, or
    of nothing at all, is accepted, changes nothing else of the rule and keeps the operator. It keeps
    the value exactly if the value can be read off the text of the condition; and then the condition
    says of the new field what it said of the old one. -/
theorem field_edit_keeps_value_iff_legible {repo : Repository}
    (reached : repo.Reachable RuleSet.Loaded Command.Authored) {r : Rule}
    (present : r ∈ repo.ruleSet.rules) {i : Nat} {c : Condition} (placed : r.conditions[i]? = some c)
    {changes : Fields} (only : Condition.FieldOnly changes) {f : Text}
    (named : Condition.fieldText ((changes.get? "field").getD (.text c.field)) = .ok f) :
    let edit : Command := .updateCondition (.text r.id) (.int i) changes
    ∃ d : Condition, let s := { r with conditions := r.conditions.set i d }
      repo.answer edit = .ok (.rule s) ∧ s ∈ (repo.step edit).ruleSet.rules ∧
      d.field = f ∧ d.operator = c.operator ∧
      (d.value = c.value ∧ d.values = c.values ↔ c.Legible) ∧
      (c.Legible → ∀ before after : Fields, after.resolve f = before.resolve c.field →
        (f.strip = [] ↔ c.field.strip = []) → d.evaluate after = c.evaluate before) := by
  intro edit
  have sound : repo.Sound (Rule.Bears Condition.Sourced) :=
    reached.bears fun _ made => made.sourced
  have bears := sound.rules.each r present
  have sourced : c.Sourced := bears.conditions c (List.mem_of_getElem? placed)
  have changed := Condition.withChanges_of_fieldOnly sourced.operator only named
  obtain ⟨k, inside, here⟩ := List.getElem_of_mem present
  have placedRule : repo.ruleSet.rules[k]? = some r := List.getElem?_eq_some_iff.mpr ⟨inside, here⟩
  have accepted := RuleSet.updateCondition_of_placed sound.rules.distinct bears.named placedRule
    placed changed
  obtain ⟨answered, led⟩ := Repository.updateCondition_of_accepted accepted
  have kept := sourced.value_ofTyped_iff f
  refine ⟨_, answered, ?_, Condition.field_ofTyped, Condition.operator_ofTyped, kept, ?_⟩
  · rw [led]
    exact List.mem_set inside _
  · intro legible before after same blank
    obtain ⟨value, values⟩ := kept.mpr legible
    apply Condition.evaluate_congr Condition.operator_ofTyped value values
    · rw [Condition.field_ofTyped]
      exact blank
    · rw [Condition.field_ofTyped]
      exact same

/-- A typed set is put on another field. -/
theorem typed_members_keep_value_on_other_field :
    let repo := (Repository.empty.step (.addRule ⟨none, none, none, none, none, []⟩)).step
      (.addCondition (.text "rule-1") (.text "channel") (.text " IN ") (.text "chat, mail"))
    let edit : Command := .updateCondition (.text "rule-1") (.int 0) [("field", .text "queue")]
    let c : Condition := ⟨"channel", "IN", none, ["chat", "mail"], some "chat, mail"⟩
    repo.Reachable RuleSet.Loaded Command.Authored ∧
      ∃ (r : Rule) (d : Condition), r ∈ repo.ruleSet.rules ∧ r.conditions[0]? = some c ∧
        repo.answer edit = .ok (.rule { r with conditions := [d] }) ∧
        d.field = "queue" ∧ d.operator = "IN" ∧ d.value = none ∧ d.values = ["chat", "mail"] ∧
        d.evaluate [("queue", .text "mail")] = c.evaluate [("channel", .text "mail")] := by
  intro repo edit c
  have unconditional : (⟨none, none, none, none, none, []⟩ : RuleEdit).Authored := by
    intro entries given
    cases given
  have reached : repo.Reachable RuleSet.Loaded Command.Authored :=
    .step (.step (.start (.inl rfl)) unconditional) trivial
  let r : Rule := ⟨"rule-1", "Rule 1", 100, [], [c], .all⟩
  have rules : repo.ruleSet.rules = [r] := by decide +kernel
  have present : r ∈ repo.ruleSet.rules := by
    rw [rules]
    exact List.mem_singleton_self r
  have only : Condition.FieldOnly [("field", .text "queue")] := by
    unfold Condition.FieldOnly
    decide
  have typed : c = Condition.ofTyped "channel" "IN" "chat, mail" := by decide +kernel
  have legible : c.Legible := by
    rw [typed]
    exact Condition.legible_ofTyped rfl
  obtain ⟨d, answered, -, field, operator, value, evaluated⟩ :=
    field_edit_keeps_value_iff_legible reached present (i := 0) (c := c) rfl only rfl
  obtain ⟨same, sameMembers⟩ := value.mpr legible
  refine ⟨reached, r, d, present, rfl, answered, field, operator, same, sameMembers, ?_⟩
  apply evaluated legible
  · rfl
  · decide

/-- A name with a comma in it is one member of a set; once the set is put on another field it is two,
    and the set no longer has the name. -/
theorem listed_name_split_on_other_field :
    let repo := (Repository.empty.step (.addRule ⟨none, none, none, none, none, []⟩)).step
      (.addCondition (.text "rule-1") (.text "agent") (.text "IN") (.list [.text "Smith, John"]))
    let edit : Command := .updateCondition (.text "rule-1") (.int 0) [("field", .text "caller")]
    let c : Condition := ⟨"agent", "IN", none, ["Smith, John"], some "Smith, John"⟩
    let d : Condition := ⟨"caller", "IN", none, ["Smith", "John"], some "Smith, John"⟩
    repo.Reachable RuleSet.Loaded Command.Authored ∧
      repo.ruleSet.rules.map (·.conditions) = [[c]] ∧
      (repo.step edit).ruleSet.rules.map (·.conditions) = [[d]] ∧
      c.evaluate [("agent", .text "Smith, John")] = .ok true ∧
      d.evaluate [("caller", .text "Smith, John")] = .ok false := by
  intro repo edit c d
  have unconditional : (⟨none, none, none, none, none, []⟩ : RuleEdit).Authored := by
    intro entries given
    cases given
  have reached : repo.Reachable RuleSet.Loaded Command.Authored :=
    .step (.step (.start (.inl rfl)) unconditional) trivial
  have before : repo.ruleSet.rules.map (·.conditions) = [[c]] := by decide +kernel
  have after : (repo.step edit).ruleSet.rules.map (·.conditions) = [[d]] := by decide +kernel
  exact ⟨reached, before, after, rfl, rfl⟩

end UnitRouting

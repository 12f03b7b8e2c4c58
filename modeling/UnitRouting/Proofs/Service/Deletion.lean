import UnitRouting.Proofs.Repository.Commuting
import UnitRouting.Proofs.Repository.Settings
import UnitRouting.Proofs.Service.Path
import UnitRouting.Proofs.Service.Reachable
import UnitRouting.Proofs.Service.Status

/-! # Deleting the rules that are listed

A rule is deleted by the path that its id makes. Ids come from configurations, too, where they may
be any text. An id with a slash makes a path of several segments, which leads nowhere or to a
condition of another rule. -/

namespace UnitRouting

open Outcome

namespace Service

variable {repo : Repository} {path : Text} {body : Bytes} {id : Text}

theorem run_execute_delete {rs : RuleSet} (deleted : repo.ruleSet.deleteRule (.text id) = .ok rs) :
    (execute (.deleteRule (.text id))).run repo = .ok .deleted (repo.commit rs) := by
  rw [execute, EStateM.run_adaptExcept, Command.authoring, Authoring.run_mutate, deleted]
  rfl

theorem serve_delete {r : Rule} (distinct : RuleSet.DistinctIds repo.ruleSet.rules)
    (present : r ∈ repo.ruleSet.rules) :
    serve repo path body (.rule r.id) .delete =
      (repo.commit (repo.ruleSet.write r.id none),
        ⟨200, .json (.object [("deleted", .text r.id)])⟩) := by
  have deleted : repo.ruleSet.deleteRule (.text r.id) = .ok (repo.ruleSet.write r.id none) := by
    rw [RuleSet.deleteRule_text distinct, RuleSet.rule?_of_mem distinct present]
  have run : (handle body (.rule r.id) .delete).run repo =
      .ok ⟨200, .object [("deleted", .text r.id)]⟩
        (repo.commit (repo.ruleSet.write r.id none)) := by
    simp only [handle, Handling.discard_eq, EStateM.run_bind, run_execute_delete deleted]
    rfl
  simp only [serve, run]

theorem serve_condition (repo : Repository) (path : Text) (body : Bytes) (id numeral : Text) :
    (serve repo path body (.condition id numeral) .delete).1 = repo ∨
      ∃ index, (serve repo path body (.condition id numeral) .delete).1 =
        repo.step (.removeCondition (.text id) index) := by
  rw [serve_fst]
  cases read : conditionIndex numeral with
  | error problem =>
      left
      rw [Handling.leaves, handle, EStateM.run_bind, Authoring.run_ofExcept, read]
  | ok index =>
      right
      exact ⟨index, (Handling.leaves_given read repo).trans (leaves_author 200 _ repo)⟩

theorem attend_lost {destination : Destination} {method : Method}
    (lost : ∀ resource, destination ≠ .found resource) :
    (attend repo path body method destination).1 = repo := by
  cases destination with
  | found resource => exact absurd rfl (lost resource)
  | _ => rfl

end Service

namespace Repository

/-- The request that asks for the deletion of what stands under a percent-encoded id. -/
def deletion (encoded : Text) (body : Bytes) : Request :=
  ⟨"DELETE", Path.rulesPrefix ++ encoded, body⟩

variable {repo : Repository} {id encoded : Text} {body : Bytes}

theorem respond_deletion (repo : Repository) (scalars : ∀ c ∈ id, c.isSurrogate = false)
    (encodes : encoded.Encodes (Utf8.encode id)) :
    repo.respond (deletion encoded body) =
      Service.attend repo (Path.rulesPrefix ++ id) body .delete
        (Destination.find .delete (Path.rulesPrefix ++ id)) := by
  have method : Method.ofName (Text.ofString "DELETE") = .delete := rfl
  have path := Path.ofTarget_rule scalars encodes
  simp only [respond, deletion, method, path, reduceCtorEq, if_false]

/-- An id with slashes asks for nothing that can be deleted, or for a condition of another rule. -/
theorem respond_deletion_of_mem (repo : Repository) (scalars : ∀ c ∈ id, c.isSurrogate = false)
    (encodes : encoded.Encodes (Utf8.encode id)) (slashed : Path.slash ∈ id) :
    (repo.respond (deletion encoded body)).1 = repo ∨
      ∃ front index, front ≠ id ∧ (repo.respond (deletion encoded body)).1 =
        repo.step (.removeCondition (.text front) index) := by
  rw [respond_deletion repo scalars encodes]
  cases led : Destination.find .delete (Path.rulesPrefix ++ id) with
  | found resource =>
      have named := Destination.ofPath?_of_find led
      have allowed : resource.allows .delete = true := by
        simp only [Destination.find, named] at led
        split at led
        · next allowed => exact allowed
        · cases led
      obtain ⟨front, free, rfl | rfl | ⟨numeral, rfl⟩⟩ := Resource.ofPath?_rule_of_mem slashed named
      · cases allowed
      · cases allowed
      · rcases Service.serve_condition repo (Path.rulesPrefix ++ id) body front numeral with
          same | ⟨index, removed⟩
        · exact .inl same
        · refine .inr ⟨front, index, ?_, removed⟩
          rintro rfl
          exact free slashed
  | _ =>
      apply Or.inl
      apply Service.attend_lost
      intro resource same
      cases same

theorem respond_deletion_of_not_mem {r : Rule} (distinct : RuleSet.DistinctIds repo.ruleSet.rules)
    (present : r ∈ repo.ruleSet.rules) (named : r.id ≠ [])
    (scalars : ∀ c ∈ r.id, c.isSurrogate = false) (encodes : encoded.Encodes (Utf8.encode r.id))
    (free : Path.slash ∉ r.id) :
    repo.respond (deletion encoded body) = (repo.commit (repo.ruleSet.write r.id none),
      ⟨200, .json (.object [("deleted", .text r.id)])⟩) := by
  have led : Destination.find .delete (Path.rulesPrefix ++ r.id) = .found (.rule r.id) := by
    rw [Destination.find, Resource.ofPath?_rule_of_not_mem named free]
    rfl
  rw [respond_deletion repo scalars encodes, led]
  exact Service.serve_delete distinct present

theorem respond_list (repo : Repository) (body : Bytes) :
    repo.respond ⟨"GET", "/api/rules", body⟩ =
      (repo, ⟨200, .json (.object [("rules", .list (repo.ruleSet.rules.map Rule.toValue))])⟩) := by
  have method : Method.ofName (Text.ofString "GET") = .get := rfl
  have led :
      Destination.find .get (Path.ofTarget (Text.ofString "/api/rules")) = .found .rules := by
    rfl
  simp only [respond, method, led]
  rfl

end Repository

/-- In every state of the service, all rules are listed, and each whose id can be encoded is deleted
    by the path of its id, alone and in whichever percent-encoding, exactly if there is no slash in
    the id. A rule with a slash in its id stays, and what its path asks for is nothing or the
    removal of a condition of another rule. -/
theorem listed_rule_deleted_iff_slashless {repo : Repository} (served : repo.Served) :
    (∀ body, repo.respond ⟨"GET", "/api/rules", body⟩ =
      (repo, ⟨200, .json (.object [("rules", .list (repo.ruleSet.rules.map Rule.toValue))])⟩)) ∧
    ∀ r ∈ repo.ruleSet.rules, (∀ c ∈ r.id, c.isSurrogate = false) →
      ∀ encoded : Text, encoded.Encodes (Utf8.encode r.id) → ∀ body,
        let answered := repo.respond (Repository.deletion encoded body)
        (answered =
          (repo.commit { repo.ruleSet with rules := repo.ruleSet.rules.filter (·.id ≠ r.id) },
            ⟨200, .json (.object [("deleted", .text r.id)])⟩) ↔ Path.slash ∉ r.id) ∧
        (Path.slash ∈ r.id → r ∈ answered.1.ruleSet.rules ∧
          (answered.1 = repo ∨ ∃ front index, front ≠ r.id ∧
            answered.1 = repo.step (.removeCondition (.text front) index))) := by
  have sound := served.authored.wellFormed
  refine ⟨repo.respond_list, ?_⟩
  intro r present scalars encoded encodes body answered
  have led (slashed : Path.slash ∈ r.id) : answered.1 = repo ∨
      ∃ front index, front ≠ r.id ∧ answered.1 = repo.step (.removeCondition (.text front) index) :=
    repo.respond_deletion_of_mem scalars encodes slashed
  have stays (slashed : Path.slash ∈ r.id) : r ∈ answered.1.ruleSet.rules := by
    rcases led slashed with same | ⟨front, index, ne, removed⟩
    · rw [same]
      exact present
    · rw [removed]
      exact Repository.mem_step_of_ne rfl sound.rules.distinct present
        fun same => ne (Value.text.inj same)
  constructor
  · constructor
    · intro deleted slashed
      have left := stays slashed
      rw [deleted] at left
      have kept := (List.mem_filter.mp left).2
      simp at kept
    · intro free
      rw [← RuleSet.write_none]
      exact Repository.respond_deletion_of_not_mem sound.rules.distinct present
        (sound.rules.each r present).named scalars encodes free
  · intro slashed
    exact ⟨stays slashed, led slashed⟩

/-- A configuration in which two ids are paths of several segments. -/
def RuleSet.slashedDocument : Value :=
  .object [(configRootKey, .object [("rules", .list [
    .object [("id", .text "rule-1"), ("conditions", .object [("field", .text "queue"),
      ("operator", .text "EQUALS"), ("value", .text "sales")])],
    .object [("id", .text "rule-1/conditions/0")], .object [("id", .text "a/b")]])])]

/-- The service after this configuration was put. -/
def Repository.slashed : Repository :=
  (Repository.empty.respond ⟨"PUT", "/api/config",
    Utf8.encode (Json.Style.readable.write RuleSet.slashedDocument)⟩).1

theorem Repository.served_slashed : slashed.Served := by
  have opened : ofFile? none = .ok .empty := rfl
  exact .respond (.start opened) _

theorem Repository.rules_slashed : slashed.ruleSet.rules =
    [⟨"rule-1", "rule-1", 0, [], [⟨"queue", "EQUALS", some "sales", [], some "sales"⟩], .all⟩,
      ⟨"rule-1/conditions/0", "rule-1/conditions/0", 0, [], [], .all⟩,
      ⟨"a/b", "a/b", 0, [], [], .all⟩] := by
  decide +kernel

/-- The rule without a slash in its id is deleted. -/
theorem slashless_rule_deleted :
    let sales : Condition := ⟨"queue", "EQUALS", some "sales", [], some "sales"⟩
    let first : Rule := ⟨"rule-1", "rule-1", 0, [], [sales], .all⟩
    let deletion := Repository.deletion (Text.percentEncoded (Utf8.encode "rule-1")) []
    Repository.slashed.Served ∧ first ∈ Repository.slashed.ruleSet.rules ∧
      (Repository.slashed.respond deletion).1.ruleSet.rules.map (·.id) =
        ["rule-1/conditions/0", "a/b"] ∧
      (Repository.slashed.respond deletion).2 =
        ⟨200, .json (.object [("deleted", .text "rule-1")])⟩ := by
  intro sales first deletion
  have present : first ∈ Repository.slashed.ruleSet.rules := by
    rw [Repository.rules_slashed]
    exact List.mem_cons_self
  have scalars : ∀ c ∈ first.id, c.isSurrogate = false := by decide
  have free : Path.slash ∉ first.id := by decide
  have encodes := Text.encodes_percentEncoded (Utf8.encode "rule-1")
  obtain ⟨-, listed⟩ := listed_rule_deleted_iff_slashless Repository.served_slashed
  have deleted := (listed first present scalars _ encodes []).1.mpr free
  refine ⟨Repository.served_slashed, present, ?_, ?_⟩
  · rw [deleted, Repository.rules_slashed]
    decide
  · rw [deleted]

/-- The path of the second rule removes the condition of the first, and that of the third leads
    nowhere. -/
theorem slashed_rules_stay :
    let sales : Condition := ⟨"queue", "EQUALS", some "sales", [], some "sales"⟩
    let first : Rule := ⟨"rule-1", "rule-1", 0, [], [sales], .all⟩
    let second : Rule := ⟨"rule-1/conditions/0", "rule-1/conditions/0", 0, [], [], .all⟩
    let third : Rule := ⟨"a/b", "a/b", 0, [], [], .all⟩
    let delete (r : Rule) := Repository.slashed.respond
      (Repository.deletion (Text.percentEncoded (Utf8.encode r.id)) [])
    Repository.slashed.Served ∧ Repository.slashed.ruleSet.rules = [first, second, third] ∧
      (delete second).2.status = 200 ∧
      (delete second).1.ruleSet.rules = [{ first with conditions := [] }, second, third] ∧
      (delete third).2.status = 404 ∧ (delete third).1.ruleSet.rules = [first, second, third] := by
  intro sales first second third delete
  refine ⟨Repository.served_slashed, Repository.rules_slashed, ?_⟩
  decide +kernel

end UnitRouting

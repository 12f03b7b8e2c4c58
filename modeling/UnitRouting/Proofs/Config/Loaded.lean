import UnitRouting.Config.Load
import UnitRouting.Proofs.Rule.Edit

/-! # Loaded rule sets

What is loaded was accepted by the constructors: its conditions were made from authored input, its
rules were created, and no two of them have the same id. -/

namespace UnitRouting

open Outcome

theorem inRule_eq_ok {α : Type} {label : Text} {result : Except Fault α} {a : α} :
    inRule label result = .ok a ↔ result = .ok a :=
  mapError_eq_ok

namespace Condition

theorem load?_made {label : Text} {v : Value} {c : Condition}
    (loaded : load? label v = .ok (some c)) : c.Made := by
  cases v with
  | object fields =>
      simp only [load?] at loaded
      split at loaded
      · obtain ⟨made, created, same⟩ := map_eq_ok.mp (inRule_eq_ok.mp loaded)
        cases same
        exact .created created
      · cases loaded
  | _ => cases loaded

theorem loadAll_made {label : Text} {clauses : List Value} {conditions : List Condition}
    (loaded : loadAll label clauses = .ok conditions) : ∀ c ∈ conditions, c.Made := by
  simp only [loadAll, bind_eq_ok, pure_ok, Except.ok.injEq] at loaded
  obtain ⟨entries, each, rfl⟩ := loaded
  intro c member
  obtain ⟨entry, given, rfl⟩ := List.mem_filterMap.mp member
  obtain ⟨clause, -, made⟩ := exists_of_mem_mapM each given
  exact load?_made made

theorem loadConditions_made {label : Text} {v : Value} {conditions : List Condition} {operator : Text}
    (loaded : loadConditions label v = .ok (conditions, operator)) : ∀ c ∈ conditions, c.Made := by
  cases v with
  | null =>
      cases loaded
      exact fun _ member => absurd member List.not_mem_nil
  | object fields =>
      simp only [loadConditions] at loaded
      split at loaded
      · simp only [bind_eq_ok, pure_ok, Except.ok.injEq, Prod.mk.injEq] at loaded
        obtain ⟨all, loadedAll, _, -, rfl, -⟩ := loaded
        exact loadAll_made loadedAll
      · cases loaded
      · simp only [bind_eq_ok, pure_ok, Except.ok.injEq, Prod.mk.injEq] at loaded
        obtain ⟨one, loadedOne, rfl, -⟩ := loaded
        intro c member
        rw [Option.mem_toList] at member
        exact load?_made (member ▸ loadedOne)
  | _ => cases loaded

end Condition

namespace Rule

theorem load_made {index : Nat} {v : Value} {r : Rule} (loaded : load index v = .ok r) :
    ∃ fields input, v = .object fields ∧ create input = .ok r ∧
      input.priority = (Fields.get? "priority" fields).getD (.int 0) ∧
        ∀ c ∈ r.conditions, c.Made := by
  cases v with
  | object fields =>
      simp only [load, bind_eq_ok] at loaded
      obtain ⟨id, -, ⟨conditions, operator⟩, conditionsLoaded, result, -, name, -, unitId, -, made⟩ :=
        loaded
      have created := inRule_eq_ok.mp made
      refine ⟨fields, _, rfl, created, rfl, ?_⟩
      have given := ConditionsInput.conditions_eq_ok.mp (create_eq_ok.mp created).2.2.2.2.2
      have same : conditions = r.conditions :=
        (List.map_inj_right fun _ _ => Option.some.inj).mp (ConditionsInput.entries.inj given)
      exact same ▸ Condition.loadConditions_made conditionsLoaded
  | _ => cases loaded

theorem loadFrom_eq_ok {index : Nat} {raws : List Value} {rules : List Rule}
    (loaded : loadFrom index raws = .ok rules) :
    ∀ r ∈ rules, ∃ i, ∃ raw ∈ raws, load i raw = .ok r := by
  induction raws generalizing index rules with
  | nil =>
      cases loaded
      exact fun _ member => absurd member List.not_mem_nil
  | cons raw rest ih =>
      simp only [loadFrom, bind_eq_ok, Except.ok.injEq, pure_ok] at loaded
      obtain ⟨rule, here, later, there, rfl⟩ := loaded
      intro r member
      rcases List.mem_cons.mp member with rfl | behind
      · exact ⟨index, raw, List.mem_cons_self, here⟩
      · obtain ⟨i, other, given, made⟩ := ih there r behind
        exact ⟨i, other, List.mem_cons_of_mem raw given, made⟩

end Rule

namespace RuleSet

theorem loadBody_eq_ok {body : Fields} {rs : RuleSet} (loaded : loadBody body = .ok rs) :
    DistinctIds rs.rules ∧ ∃ raws, (Fields.get? "rules" body).getD (.list []) = .list raws ∧
      ∀ r ∈ rs.rules, ∃ i, ∃ raw ∈ raws, Rule.load i raw = .ok r := by
  unfold loadBody at loaded
  split at loaded
  · next raws listed =>
      simp only [bind_eq_ok, mapError_eq_ok] at loaded
      obtain ⟨rules, each, version, -, defaultUnitId, -, made⟩ := loaded
      obtain ⟨distinct, rfl⟩ := create_eq_ok.mp made
      exact ⟨distinct, raws, listed, Rule.loadFrom_eq_ok each⟩
  · cases loaded

theorem load_eq_ok {v : Value} {rs : RuleSet} (loaded : load v = .ok rs) :
    DistinctIds rs.rules ∧ ∃ fields body raws, v = .object fields ∧
      Fields.get? configRootKey fields = some (.object body) ∧
      (Fields.get? "rules" body).getD (.list []) = .list raws ∧
      ∀ r ∈ rs.rules, ∃ i, ∃ raw ∈ raws, Rule.load i raw = .ok r := by
  cases v with
  | object fields =>
      simp only [load] at loaded
      split at loaded
      · next body found =>
          obtain ⟨distinct, raws, listed, each⟩ := loadBody_eq_ok loaded
          exact ⟨distinct, fields, body, raws, rfl, found, listed, each⟩
      · cases loaded
  | _ => cases loaded

end RuleSet

end UnitRouting

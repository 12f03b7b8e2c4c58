import UnitRouting.Proofs.Rule.Creation
import UnitRouting.Rule.Edit

/-! # Edits keep rule sets sound

A rule set is sound for a property of rules if all of its rules have it and no two have the same id.
An edit of a sound rule set gives a sound one again, provided that what changes single rules keeps
the property. It meets only what is to be expected of its arguments, and never the fault that two
rules have the same id. -/

namespace UnitRouting

open Outcome

/-- Integers, and booleans, which stand for one and zero. -/
def Value.isWhole : Value → Bool
  | .int _ | .bool _ => true
  | _ => false

namespace RuleSet

/-- No two rules have the same id, and all of them have a property. -/
structure Sound (P : Rule → Prop) (rs : RuleSet) : Prop where
  distinct : DistinctIds rs.rules
  each : ∀ r ∈ rs.rules, P r

variable {P : Rule → Prop} {rs : RuleSet} {proper : Prop}

theorem distinctIds_set {rules : List Rule} (distinct : DistinctIds rules) {i : Nat} {old new : Rule}
    (placed : rules[i]? = some old) (same : new.id = old.id) : DistinctIds (rules.set i new) := by
  obtain ⟨inside, rfl⟩ := List.getElem?_eq_some_iff.mp placed
  have ids : (rules.set i new).map (·.id) = rules.map (·.id) := by
    have insideIds : i < (rules.map (·.id)).length := by simpa using inside
    have unchanged : (rules.map (·.id)).set i (rules.map (·.id))[i] = rules.map (·.id) :=
      List.set_getElem_self insideIds
    rw [List.map_set, same]
    simpa only [List.getElem_map] using unchanged
  rw [DistinctIds, ids]
  exact distinct

theorem swapped_perm (rules : List Rule) (i j : Nat) : (swapped rules i j).Perm rules := by
  unfold swapped
  split
  · next a b placedA placedB =>
      obtain ⟨insideA, rfl⟩ := List.getElem?_eq_some_iff.mp placedA
      obtain ⟨insideB, rfl⟩ := List.getElem?_eq_some_iff.mp placedB
      exact List.set_set_perm insideA insideB
  · exact List.Perm.refl rules

theorem replaceRule_eq_ok {id : Value} {change : Rule → Except Fault Rule} {next : RuleSet}
    {r : Rule} : rs.replaceRule id change = .ok (next, r) ↔
      ∃ index old, rs.find id = .ok index ∧ rs.rules[index]? = some old ∧ change old = .ok r ∧
        rs.withRules (rs.rules.set index r) = .ok next := by
  simp only [replaceRule, bind_eq_ok]
  refine exists_congr fun index => ?_
  cases placed : rs.rules[index]? with
  | none => simp
  | some old => simp [bind_eq_ok]

theorem withRules_settles {rules : List Rule} (distinct : DistinctIds rules)
    (each : ∀ r ∈ rules, P r) : Settles (Fault.Expected proper) (Sound P) (rs.withRules rules) := by
  rw [withRules, create_of_distinct distinct]
  exact .ok ⟨distinct, each⟩

theorem find_settles (rs : RuleSet) (id : Value) :
    Settles (Fault.Expected id.Fits) (fun i => ∃ r, rs.rules[i]? = some r) (rs.find id) := by
  unfold find
  split
  · next i found =>
      cases id with
      | text t =>
          obtain ⟨inside, -⟩ := List.findIdx?_eq_some_iff_getElem.mp found
          exact .ok ⟨rs.rules[i], List.getElem?_eq_getElem inside⟩
      | _ => cases found
  · exact id.display_expected.bind fun shown _ => .error (.ruleNotFound shown)

theorem replaceRule_settles (sound : rs.Sound P) {id : Value} (fits : proper → id.Fits)
    {change : Rule → Except Fault Rule}
    (changes : ∀ r ∈ rs.rules,
      Settles (Fault.Expected proper) (fun s => s.id = r.id ∧ P s) (change r)) :
    Settles (Fault.Expected proper) (fun next => next.1.Sound P) (rs.replaceRule id change) := by
  apply ((rs.find_settles id).needing fits).bind
  rintro index ⟨rule, placed⟩
  rw [placed]
  apply (changes rule (List.mem_of_getElem? placed)).bind
  rintro changed ⟨same, kept⟩
  have each : ∀ r ∈ rs.rules.set index changed, P r := by
    intro r member
    rcases List.mem_or_eq_of_mem_set member with old | rfl
    · exact sound.each r old
    · exact kept
  exact (withRules_settles (distinctIds_set sound.distinct placed same) each).bind
    fun next sound => .ok sound

theorem deleteRule_settles (sound : rs.Sound P) (id : Value) :
    Settles (Fault.Expected id.Fits) (Sound P) (rs.deleteRule id) := by
  apply (rs.find_settles id).bind
  intro index _
  have fewer := List.eraseIdx_sublist rs.rules index
  exact withRules_settles (sound.distinct.sublist (fewer.map (·.id)))
    fun r member => sound.each r (fewer.subset member)

theorem target?_settles (index length : Nat) (direction : Value) :
    Settles (Fault.Expected (direction.isWhole = true)) (fun _ => True)
      (target? index length direction) := by
  cases direction with
  | int | bool => exact .ok trivial
  | float x =>
      simp only [target?]
      split
      · split
        · exact .ok trivial
        · exact .error (.wrongKind Bool.false_ne_true)
      · exact .error (.wrongKind Bool.false_ne_true)
  | _ => exact .error (.wrongKind Bool.false_ne_true)

theorem moveRule_settles (sound : rs.Sound P) (id direction : Value) :
    Settles (Fault.Expected (id.Fits ∧ direction.isWhole = true)) (Sound P)
      (rs.moveRule id direction) := by
  apply ((rs.find_settles id).needing And.left).bind
  intro index _
  apply ((target?_settles index rs.rules.length direction).needing And.right).bind
  intro target _
  cases target with
  | none => exact .ok sound
  | some target =>
      have perm := swapped_perm rs.rules index target
      have distinct : DistinctIds (swapped rs.rules index target) :=
        (perm.map Rule.id).nodup_iff.mpr sound.distinct
      exact withRules_settles distinct fun r member => sound.each r (perm.mem_iff.mp member)

theorem setDefaultUnitId_settles (sound : rs.Sound P) (value : Value) :
    Settles (Fault.Expected value.Fits) (Sound P) (rs.setDefaultUnitId value) := by
  apply value.display_expected.bind
  intro text _
  rw [create_of_distinct sound.distinct]
  exact .ok ⟨sound.distinct, sound.each⟩

theorem setVersion_settles (sound : rs.Sound P) (value : Value) :
    Settles (Fault.Expected value.Fits) (Sound P) (rs.setVersion value) := by
  apply value.display_expected.bind
  intro text _
  rw [create_of_distinct sound.distinct]
  exact .ok ⟨sound.distinct, sound.each⟩

theorem conditionIndex_settles (rule : Rule) (index : Value) :
    Settles (Fault.Expected (index.Fits ∧ index.isWhole = true))
      (fun i => i < rule.conditions.length) (conditionIndex rule index) := by
  have missing : Settles (Fault.Expected (index.Fits ∧ index.isWhole = true))
      (fun i => i < rule.conditions.length)
      (index.display >>= fun shown => .error (.conditionNotFound rule.id shown)) :=
    (index.display_expected.needing And.left).bind fun shown _ =>
      .error (.conditionNotFound rule.id shown)
  have within (n : Int) : Settles (Fault.Expected (index.Fits ∧ index.isWhole = true))
      (fun i => i < rule.conditions.length)
      (if 0 ≤ n ∧ n < (rule.conditions.length : Int) then .ok n.toNat
        else index.display >>= fun shown => .error (.conditionNotFound rule.id shown)) := by
    split
    · next inside => exact .ok (by omega)
    · exact missing
  cases index with
  | int n => exact within n
  | bool b => exact within (if b then 1 else 0)
  | float x =>
      simp only [conditionIndex]
      split
      · split
        · exact missing
        · exact .error (.wrongKind fun proper => Bool.false_ne_true proper.2)
      · exact missing
  | _ => exact .error (.wrongKind fun proper => Bool.false_ne_true proper.2)

/-- The property outlives a change of conditions to ones that the rule had or that were made. -/
def Lasting (P : Rule → Prop) : Prop :=
  ∀ (r s : Rule) (conditions : List Condition), P r →
    (∀ c ∈ conditions, c ∈ r.conditions ∨ c.Made) →
      r.withChanges (.ofConditions conditions) = .ok s → P s

theorem withConditions_settles (lasting : Lasting P) {r : Rule} (has : P r)
    {conditions : List Condition} (known : ∀ c ∈ conditions, c ∈ r.conditions ∨ c.Made) :
    Settles (Fault.Expected proper) (fun s => s.id = r.id ∧ P s)
      (r.withChanges (.ofConditions conditions)) := by
  have edit : (RuleEdit.ofConditions conditions).Proper := by constructor <;> nofun
  apply ((r.withChanges_expected _).needing fun _ => edit).and_ok.imp
  · rintro s ⟨changed, -⟩
    exact ⟨Rule.id_of_withChanges changed, lasting r s _ has known changed⟩
  · exact fun _ expected => expected

theorem addCondition_settles (lasting : Lasting P) (sound : rs.Sound P)
    (id field operator value : Value) :
    Settles (Fault.Expected id.Fits) (fun next => next.1.Sound P)
      (rs.addCondition id field operator value) := by
  apply (Condition.create_expected field operator value).and_ok.bind
  rintro c ⟨made, -⟩
  apply replaceRule_settles sound fun fits => fits
  intro r member
  apply withConditions_settles lasting (sound.each r member)
  intro d given
  rcases List.mem_append.mp given with old | new
  · exact .inl old
  · exact .inr (List.mem_singleton.mp new ▸ .created made)

theorem updateCondition_settles (lasting : Lasting P) (sound : rs.Sound P) (id index : Value)
    (changes : Fields) :
    Settles (Fault.Expected (id.Fits ∧ index.Fits ∧ index.isWhole = true))
      (fun next => next.1.Sound P) (rs.updateCondition id index changes) := by
  apply replaceRule_settles sound And.left
  intro r member
  apply ((conditionIndex_settles r index).needing And.right).bind
  intro i inside
  rw [List.getElem?_eq_getElem inside]
  apply (r.conditions[i].withChanges_expected changes).and_ok.bind
  rintro changed ⟨made, -⟩
  apply withConditions_settles lasting (sound.each r member)
  intro d given
  rcases List.mem_or_eq_of_mem_set given with old | rfl
  · exact .inl old
  · exact .inr (.changed made)

theorem removeCondition_settles (lasting : Lasting P) (sound : rs.Sound P) (id index : Value) :
    Settles (Fault.Expected (id.Fits ∧ index.Fits ∧ index.isWhole = true))
      (fun next => next.1.Sound P) (rs.removeCondition id index) := by
  apply replaceRule_settles sound And.left
  intro r member
  apply ((conditionIndex_settles r index).needing And.right).bind
  intro i _
  apply withConditions_settles lasting (sound.each r member)
  intro d given
  exact .inl (List.mem_of_mem_eraseIdx given)

/-- Changing a rule keeps the set sound if what the edit makes of a rule keeps the property. -/
theorem updateRule_settles (sound : rs.Sound P) (id : Value) {edit : RuleEdit}
    (keeps : ∀ r s, P r → r.withChanges edit = .ok s → P s) :
    Settles (Fault.Expected (id.Fits ∧ edit.Proper)) (fun next => next.1.Sound P)
      (rs.updateRule id edit) := by
  apply replaceRule_settles sound And.left
  intro r member
  apply ((r.withChanges_expected edit).needing And.right).and_ok.imp
  · rintro s ⟨changed, -⟩
    exact ⟨Rule.id_of_withChanges changed, keeps r s (sound.each r member) changed⟩
  · exact fun _ expected => expected

end RuleSet

end UnitRouting

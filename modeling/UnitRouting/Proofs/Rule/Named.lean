import Mathlib.Data.List.Nodup
import UnitRouting.Proofs.Rule.Placed

/-! # Rules by their ids

Where ids are distinct, a rule set is a table of rules in an order. An edit of one rule reads what
stands under an id and writes there another rule or nothing; what stands under all other ids stays
as it was, in its order. -/

namespace UnitRouting.RuleSet

open Outcome

/-- The rule with an id. -/
def rule? (rs : RuleSet) (id : Text) : Option Rule := rs.rules.find? fun r => r.id = id

/-- The rule set with something else under an id: another rule, or nothing. -/
def write (rs : RuleSet) (id : Text) (kept : Option Rule) : RuleSet :=
  { rs with rules := rs.rules.filterMap fun r => if r.id = id then kept else some r }

/-- What is to stand under an id has that id. -/
def Fits (id : Text) (kept : Option Rule) : Prop := ∀ s, kept = some s → s.id = id

variable {rs : RuleSet} {id other : Text} {kept kept' : Option Rule} {r s : Rule} {i : Nat}

theorem mem_of_rule? (found : rs.rule? id = some r) : r ∈ rs.rules ∧ r.id = id :=
  ⟨List.mem_of_find?_eq_some found, by simpa using List.find?_some found⟩

theorem rule?_eq_none : rs.rule? id = none ↔ ∀ r ∈ rs.rules, r.id ≠ id := by
  simp [rule?]

theorem rule?_of_mem (distinct : DistinctIds rs.rules) (member : r ∈ rs.rules) :
    rs.rule? r.id = some r := by
  cases found : rs.rule? r.id with
  | none => exact absurd rfl (rule?_eq_none.mp found r member)
  | some s =>
      obtain ⟨memberS, same⟩ := mem_of_rule? found
      exact congrArg some (List.inj_on_of_nodup_map distinct memberS member same)

theorem write_none : rs.write id none = { rs with rules := rs.rules.filter (·.id ≠ id) } := by
  simp only [write]
  congr 1
  induction rs.rules with
  | nil => rfl
  | cons r rest ih =>
      by_cases here : r.id = id
      · simpa [here] using ih
      · simpa [here] using ih

theorem rule?_write_of_ne (fits : Fits id kept) (ne : other ≠ id) :
    (rs.write id kept).rule? other = rs.rule? other := by
  simp only [rule?, write]
  induction rs.rules with
  | nil => rfl
  | cons r rest ih =>
      by_cases here : r.id = id
      · have skipped : r.id ≠ other := fun same => ne (same.symm.trans here)
        cases kept with
        | none => simpa [List.filterMap_cons, List.find?_cons, here, ne.symm] using ih
        | some s =>
            have named := fits s rfl
            simpa [List.filterMap_cons, List.find?_cons, here, named, ne.symm] using ih
      · by_cases there : r.id = other
        · simp [there, ne]
        · simpa [List.filterMap_cons, List.find?_cons, here, there] using ih

/-- What is written under two ids may be written in either order. -/
theorem write_comm (fits : Fits id kept) (fits' : Fits other kept') (ne : other ≠ id) :
    (rs.write id kept).write other kept' = (rs.write other kept').write id kept := by
  simp only [write, List.filterMap_filterMap]
  congr 1
  apply List.filterMap_congr
  intro r _
  by_cases here : r.id = id
  · cases kept with
    | none => simp [here, ne.symm]
    | some s => simp [here, ne.symm, fits s rfl]
  · by_cases there : r.id = other
    · cases kept' with
      | none => simp [there, ne]
      | some s => simp [there, ne, fits' s rfl]
    · simp [here, there]

theorem distinct_write (distinct : DistinctIds rs.rules) (fits : Fits id kept) :
    DistinctIds (rs.write id kept).rules := by
  have ids : ((rs.write id kept).rules.map (·.id)).Sublist (rs.rules.map (·.id)) := by
    simp only [write]
    induction rs.rules with
    | nil => exact List.Sublist.refl _
    | cons r rest ih =>
        by_cases here : r.id = id
        · cases kept with
          | none => simpa [List.filterMap_cons, here] using ih.cons _
          | some s => simpa [List.filterMap_cons, here, fits s rfl] using ih
        · simpa [List.filterMap_cons, here] using ih
  exact distinct.sublist ids

theorem filterMap_absent {rules : List Rule} (absent : ∀ r ∈ rules, r.id ≠ id) :
    (rules.filterMap fun r => if r.id = id then kept else some r) = rules := by
  induction rules with
  | nil => rfl
  | cons r rest ih =>
      have later := ih fun s member => absent s (List.mem_cons_of_mem r member)
      simp [absent r List.mem_cons_self, later]

theorem exists_around {α : Type} {items : List α} {a : α} (placed : items[i]? = some a) :
    ∃ front back, items = front ++ a :: back ∧ front.length = i := by
  obtain ⟨inside, rfl⟩ := List.getElem?_eq_some_iff.mp placed
  refine ⟨items.take i, items.drop (i + 1), ?_, List.length_take_of_le (Nat.le_of_lt inside)⟩
  rw [List.getElem_cons_drop, List.take_append_drop]

theorem write_at (distinct : DistinctIds rs.rules) (placed : rs.rules[i]? = some r) :
    ∃ front back, rs.rules = front ++ r :: back ∧ front.length = i ∧
      ∀ kept : Option Rule, (rs.write r.id kept).rules = front ++ kept.toList ++ back := by
  obtain ⟨front, back, split, length⟩ := exists_around placed
  refine ⟨front, back, split, length, fun kept => ?_⟩
  rw [DistinctIds, split, List.map_append, List.map_cons, List.nodup_middle, List.nodup_cons,
    List.mem_append, not_or] at distinct
  obtain ⟨⟨before, after⟩, -⟩ := distinct
  have absent {rules : List Rule} (new : r.id ∉ rules.map (·.id)) : ∀ x ∈ rules, x.id ≠ r.id := by
    intro x member same
    exact new (List.mem_map.mpr ⟨x, member, same⟩)
  rw [write, split, List.filterMap_append, List.filterMap_cons, filterMap_absent (absent before),
    filterMap_absent (absent after), if_pos rfl]
  cases kept <;> simp

theorem set_eq_write (distinct : DistinctIds rs.rules) (placed : rs.rules[i]? = some r) :
    rs.rules.set i s = (rs.write r.id (some s)).rules := by
  obtain ⟨front, back, split, rfl, written⟩ := write_at distinct placed
  rw [written, split]
  simp

theorem eraseIdx_eq_write (distinct : DistinctIds rs.rules) (placed : rs.rules[i]? = some r) :
    rs.rules.eraseIdx i = (rs.write r.id none).rules := by
  obtain ⟨front, back, split, rfl, written⟩ := write_at distinct placed
  rw [written, split, List.eraseIdx_append_of_length_le (Nat.le_refl _)]
  simp

theorem find_of_rule? (distinct : DistinctIds rs.rules) (found : rs.rule? id = some r) :
    ∃ i, rs.find (.text id) = .ok i ∧ rs.rules[i]? = some r := by
  obtain ⟨member, same⟩ := mem_of_rule? found
  obtain ⟨i, inside, here⟩ := List.getElem_of_mem member
  have placed : rs.rules[i]? = some r := List.getElem?_eq_some_iff.mpr ⟨inside, here⟩
  exact ⟨i, (find_text_eq_ok distinct).mpr ⟨r, placed, same⟩, placed⟩

theorem find_of_no_rule (missing : rs.rule? id = none) :
    rs.find (.text id) = .error (.ruleNotFound id) :=
  find_text_eq_error.mpr ⟨rfl, rule?_eq_none.mp missing⟩

/-- Nothing but texts are ids: whatever the rules are, the search for anything else fails alike. -/
theorem find_of_not_text {v : Value} (other : ∀ t, v ≠ .text t) :
    ∃ fault, ∀ rs : RuleSet, rs.find v = .error fault := by
  have found (rs : RuleSet) :
      rs.find v = v.display >>= fun shown => .error (.ruleNotFound shown) := by
    cases v with
    | text t => exact absurd rfl (other t)
    | _ => rfl
  cases shown : v.display with
  | error fault => exact ⟨fault, fun rs => by simp only [found, shown, bind_error]⟩
  | ok text => exact ⟨.ruleNotFound text, fun rs => by simp only [found, shown, bind_ok]⟩

theorem replaceRule_text (distinct : DistinctIds rs.rules) {change : Rule → Except Fault Rule}
    (keeps : ∀ r s, change r = .ok s → s.id = r.id) :
    rs.replaceRule (.text id) change =
      match rs.rule? id with
      | none => .error (.ruleNotFound id)
      | some r => (change r).map fun s => (rs.write id (some s), s) := by
  cases found : rs.rule? id with
  | none => simp only [replaceRule, find_of_no_rule found, bind_error]
  | some r =>
      obtain ⟨i, located, placed⟩ := find_of_rule? distinct found
      obtain ⟨-, rfl⟩ := mem_of_rule? found
      cases changed : change r with
      | error fault =>
          simp only [replaceRule, located, bind_ok, placed, changed, bind_error, Except.map]
      | ok s =>
          rw [replaceRule_of_placed distinct placed changed (keeps r s changed),
            set_eq_write distinct placed]
          simp only [changed, Except.map]
          rfl

theorem deleteRule_text (distinct : DistinctIds rs.rules) :
    rs.deleteRule (.text id) =
      match rs.rule? id with
      | none => .error (.ruleNotFound id)
      | some _ => .ok (rs.write id none) := by
  cases found : rs.rule? id with
  | none => simp only [deleteRule, find_of_no_rule found, bind_error]
  | some r =>
      obtain ⟨i, located, placed⟩ := find_of_rule? distinct found
      obtain ⟨-, rfl⟩ := mem_of_rule? found
      have fewer : DistinctIds (rs.write r.id none).rules := distinct_write distinct nofun
      rw [deleteRule, located, bind_ok, withRules, eraseIdx_eq_write distinct placed,
        create_of_distinct fewer]
      rfl

end UnitRouting.RuleSet

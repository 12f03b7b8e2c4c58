import UnitRouting.Proofs.Number.Exact
import UnitRouting.Proofs.Rule.Edit

/-! # Edits of what is there

Rules are found by their ids and conditions by their positions. What is found can be edited, and an
edit of one condition leaves everything else in its place. -/

namespace UnitRouting

open Outcome

namespace RuleSet

variable {rs : RuleSet} {id : Text} {i : Nat} {r : Rule}

theorem find_text_eq_ok (distinct : DistinctIds rs.rules) :
    rs.find (.text id) = .ok i ↔ ∃ r, rs.rules[i]? = some r ∧ r.id = id := by
  have found : rs.find (.text id) = .ok i ↔ rs.indexOf? id = some i := by
    simp only [find, positionOf?]
    cases rs.indexOf? id with
    | none => simp [Value.display]
    | some j => simp
  rw [found, indexOf?, List.findIdx?_eq_some_iff_getElem]
  constructor
  · rintro ⟨inside, same, -⟩
    exact ⟨rs.rules[i], List.getElem?_eq_getElem inside, beq_iff_eq.mp same⟩
  · rintro ⟨r, placed, rfl⟩
    obtain ⟨inside, here⟩ := List.getElem?_eq_some_iff.mp placed
    refine ⟨inside, by rw [here]; exact beq_self_eq_true _, ?_⟩
    intro j earlier same
    have placedEarlier : rs.rules[j]? = some rs.rules[j] := List.getElem?_eq_getElem (by omega)
    have : j = i := distinct.position_unique placedEarlier placed (beq_iff_eq.mp same)
    omega

theorem find_text_eq_error {fault : Fault} :
    rs.find (.text id) = .error fault ↔ fault = .ruleNotFound id ∧ ∀ r ∈ rs.rules, r.id ≠ id := by
  have missing : rs.indexOf? id = none ↔ ∀ r ∈ rs.rules, r.id ≠ id := by
    simp [indexOf?, List.findIdx?_eq_none_iff]
  rw [← missing]
  simp only [find, positionOf?]
  cases rs.indexOf? id with
  | none => simp [Value.display, eq_comm]
  | some j => simp

theorem conditionIndex_of_placed {c : Condition} (placed : r.conditions[i]? = some c) :
    conditionIndex r (.int i) = .ok i := by
  have inside : i < r.conditions.length := (List.getElem?_eq_some_iff.mp placed).1
  have within : 0 ≤ (i : Int) ∧ (i : Int) < r.conditions.length := by omega
  simp only [conditionIndex, if_pos within, Int.toNat_natCast]

theorem replaceRule_of_placed (distinct : DistinctIds rs.rules) (placed : rs.rules[i]? = some r)
    {change : Rule → Except Fault Rule} {s : Rule} (changed : change r = .ok s) (same : s.id = r.id) :
    rs.replaceRule (.text r.id) change = .ok (⟨rs.version, rs.defaultUnitId, rs.rules.set i s⟩, s) :=
  replaceRule_eq_ok.mpr ⟨i, r, (find_text_eq_ok distinct).mpr ⟨r, placed, rfl⟩, placed, changed,
    create_of_distinct (distinctIds_set distinct placed same)⟩

theorem updateCondition_of_placed (distinct : DistinctIds rs.rules) (named : r.id ≠ [])
    (placed : rs.rules[i]? = some r) {j : Nat} {c d : Condition}
    (placedThere : r.conditions[j]? = some c) {changes : Fields}
    (changed : c.withChanges changes = .ok d) :
    let s := { r with conditions := r.conditions.set j d }
    rs.updateCondition (.text r.id) (.int j) changes =
      .ok (⟨rs.version, rs.defaultUnitId, rs.rules.set i s⟩, s) := by
  refine replaceRule_of_placed distinct placed ?_ rfl
  simp only [conditionIndex_of_placed placedThere, bind_ok, placedThere, changed]
  exact Rule.withChanges_ofConditions named _

theorem eq_wrongKind_of_target? {index length : Nat} {direction : Value} {fault : Fault}
    (failed : target? index length direction = .error fault) : fault = .wrongKind := by
  cases direction with
  | int | bool => cases failed
  | float x =>
      simp only [target?] at failed
      split at failed
      · split at failed <;> cases failed
        rfl
      · cases failed
        rfl
  | _ =>
      cases failed
      rfl

theorem moveRule_eq_error (distinct : DistinctIds rs.rules) {direction : Value} {fault : Fault} :
    rs.moveRule (.text id) direction = .error fault ↔
      (fault = .ruleNotFound id ∧ ∀ r ∈ rs.rules, r.id ≠ id) ∨
      ∃ i r, rs.rules[i]? = some r ∧ r.id = id ∧
        target? i rs.rules.length direction = .error fault := by
  rw [moveRule, bind_eq_error, find_text_eq_error]
  apply or_congr_right
  constructor
  · rintro ⟨i, found, failed⟩
    obtain ⟨r, placed, same⟩ := (find_text_eq_ok distinct).mp found
    rcases bind_eq_error.mp failed with led | ⟨target, -, failed⟩
    · exact ⟨i, r, placed, same, led⟩
    · cases target with
      | none => cases failed
      | some target =>
          have perm := swapped_perm rs.rules i target
          have accepted : rs.withRules (swapped rs.rules i target) = .ok _ :=
            create_of_distinct ((perm.map Rule.id).nodup_iff.mpr distinct)
          cases accepted.symm.trans failed
  · rintro ⟨i, r, placed, same, led⟩
    exact ⟨i, (find_text_eq_ok distinct).mpr ⟨r, placed, same⟩, bind_eq_error.mpr (.inl led)⟩

/-- By a floating point number that is one, up or down, a rule of a list of any real length is moved
    off the ends only. -/
theorem target?_of_float {index length : Nat} (inside : index < length) (few : length < twoTo 53)
    {x : Double} {n : Int} (whole : x.toInt? = some n) (one : n = 1 ∨ n = -1) :
    target? index length (.float x) =
      if 0 ≤ (index : Int) + n ∧ (index : Int) + n < length then .error .wrongKind
      else .ok none := by
  have small : (index : Int).natAbs < twoTo 53 := by omega
  have near : ((index : Int) + n).natAbs < twoTo 53 := by omega
  simp only [target?, Double.intAdd_of_small small whole, Double.place_ofInt near,
    Double.Place.lt_ofInt]
  by_cases within : 0 ≤ (index : Int) + n ∧ (index : Int) + n < length
  · have left : ¬ (index : Int) + n < 0 := by omega
    simp [within, left]
  · rw [if_neg within, if_pos]
    simp only [Bool.or_eq_true, decide_eq_true_eq, Bool.not_eq_true', decide_eq_false_iff_not]
    omega

end RuleSet

end UnitRouting

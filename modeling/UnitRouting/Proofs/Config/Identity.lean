import UnitRouting.Proofs.Config.Defects
import UnitRouting.Proofs.Config.Loaded
import UnitRouting.Proofs.Text.Digits

/-! # Ids of loaded rules

A rule of a configuration keeps the id that it gives itself. A rule that gives none is named after its
position in the list. These names differ from one another, but one of them may be the id that another
rule gives itself, and then nothing is loaded. -/

namespace UnitRouting

open Outcome

namespace Rule

theorem fallbackId_injective : Function.Injective fallbackId := by
  intro m n same
  exact Text.ofNat_injective (List.append_cancel_left same)

/-- The text of the id that a rule of a configuration gives itself, if it gives one. -/
def givenId? : Value → Option Text
  | .object fields =>
    let id := Fields.getOrNull "id" fields
    if id.isGiven then id.display.toOption else none
  | _ => none

/-- The ids that the rules of a configuration are loaded with. -/
def assignedIds (raws : List Value) : List Text :=
  raws.mapIdx fun place raw => (givenId? raw).getD (fallbackId (place + 1))

/-- A rule gives itself the id that a rule without one is named. -/
structure Clash (raws : List Value) (id : Text) : Prop where
  given : id ∈ raws.filterMap givenId?
  assigned : ∃ place raw, raws[place]? = some raw ∧ givenId? raw = none ∧ fallbackId (place + 1) = id

theorem id_of_load {index : Nat} {raw : Value} {r : Rule} (loaded : load index raw = .ok r) :
    r.id = (givenId? raw).getD (fallbackId index) := by
  cases raw with
  | object fields =>
      simp only [load, bind_eq_ok] at loaded
      obtain ⟨id, named, _, -, _, -, _, -, _, -, made⟩ := loaded
      have kept := (idText_eq_ok.mp (create_eq_ok.mp (inRule_eq_ok.mp made)).1).1
      rw [← Value.text.inj kept]
      unfold Fields.textOr at named
      dsimp only at named
      split at named
      · next given => simp only [givenId?, given, if_true, named, Except.toOption, Option.getD_some]
      · next missing =>
          cases named
          simp only [givenId?, missing, if_false, Option.getD_none, Bool.false_eq_true]
  | _ => cases loaded

theorem loadFrom_succeeds {index : Nat} {raws : List Value}
    (each : ∀ place raw, raws[place]? = some raw → ∃ r, load (index + place) raw = .ok r) :
    ∃ rules, loadFrom index raws = .ok rules := by
  induction raws generalizing index with
  | nil => exact ⟨[], rfl⟩
  | cons raw rest ih =>
      obtain ⟨r, here⟩ := each 0 raw rfl
      obtain ⟨rules, there⟩ : ∃ rules, loadFrom (index + 1) rest = .ok rules := by
        apply ih
        intro place other found
        obtain ⟨s, loaded⟩ := each (place + 1) other found
        exact ⟨s, by rwa [Nat.add_assoc, Nat.add_comm 1]⟩
      refine ⟨r :: rules, ?_⟩
      rw [Nat.add_zero] at here
      simp only [loadFrom, here, there, bind_ok, pure_ok]

theorem ids_of_loadFrom {index : Nat} {raws : List Value} {rules : List Rule}
    (loaded : loadFrom index raws = .ok rules) :
    rules.map (·.id) =
      raws.mapIdx fun place raw => (givenId? raw).getD (fallbackId (index + place)) := by
  induction raws generalizing index rules with
  | nil =>
      cases loaded
      rfl
  | cons raw rest ih =>
      simp only [loadFrom, bind_eq_ok, pure_ok, Except.ok.injEq] at loaded
      obtain ⟨r, here, later, there, rfl⟩ := loaded
      rw [List.map_cons, List.mapIdx_cons, ih there, id_of_load here]
      simp only [Nat.add_zero, Nat.add_assoc, Nat.add_comm 1]

variable {raws : List Value} {id : Text}

theorem getElem?_assignedIds (place : Nat) : (assignedIds raws)[place]? =
    raws[place]?.map fun raw => (givenId? raw).getD (fallbackId (place + 1)) :=
  List.getElem?_mapIdx

/-- Where no two rules give themselves the same id, two rules with the same id clash. -/
theorem clash_of_repeated (distinct : (raws.filterMap givenId?).Nodup) {i j : Nat} (before : i < j)
    (first : (assignedIds raws)[i]? = some id) (second : (assignedIds raws)[j]? = some id) :
    Clash raws id := by
  rw [getElem?_assignedIds, Option.map_eq_some_iff] at first second
  obtain ⟨raw, placed, name⟩ := first
  obtain ⟨raw', placed', name'⟩ := second
  have mem {place : Nat} {entry : Value} (found : raws[place]? = some entry)
      (given : givenId? entry = some id) : id ∈ raws.filterMap givenId? :=
    List.mem_filterMap.mpr ⟨entry, List.mem_of_getElem? found, given⟩
  cases given : givenId? raw with
  | some t =>
      rw [given, Option.getD_some] at name
      subst name
      cases given' : givenId? raw' with
      | some t' =>
          rw [given', Option.getD_some] at name'
          subst name'
          have apart := List.pairwise_filterMap.mp distinct
          obtain ⟨inside, rfl⟩ := List.getElem?_eq_some_iff.mp placed
          obtain ⟨inside', rfl⟩ := List.getElem?_eq_some_iff.mp placed'
          exact absurd rfl
            (List.pairwise_iff_getElem.mp apart i j inside inside' before t' given t' given')
      | none =>
          rw [given', Option.getD_none] at name'
          exact ⟨mem placed given, j, raw', placed', given', name'⟩
  | none =>
      rw [given, Option.getD_none] at name
      cases given' : givenId? raw' with
      | some t' =>
          rw [given', Option.getD_some] at name'
          subst name'
          exact ⟨mem placed' given', i, raw, placed, given, name⟩
      | none =>
          rw [given', Option.getD_none] at name'
          have same := fallbackId_injective (name.trans name'.symm)
          omega

theorem Clash.not_nodup (clash : Clash raws id) : ¬(assignedIds raws).Nodup := by
  obtain ⟨given, j, raw', placed', missing, name⟩ := clash
  obtain ⟨raw, member, own⟩ := List.mem_filterMap.mp given
  obtain ⟨i, placed⟩ := List.mem_iff_getElem?.mp member
  have first : (assignedIds raws)[i]? = some id := by
    simp only [getElem?_assignedIds, placed, own, Option.map_some, Option.getD_some]
  have second : (assignedIds raws)[j]? = some id := by
    simp only [getElem?_assignedIds, placed', missing, Option.map_some, Option.getD_none, name]
  intro distinct
  have inside : i < (assignedIds raws).length := (List.getElem?_eq_some_iff.mp first).1
  obtain rfl := (List.getElem?_inj inside distinct).mp (first.trans second.symm)
  rw [placed] at placed'
  cases placed'
  rw [missing] at own
  cases own

end Rule

namespace RuleSet

theorem duplicateId?_eq_some {seen : List Text} {rules : List Rule} {id : Text}
    (found : duplicateId? seen rules = some id) : ∃ j : Nat, (rules.map (·.id))[j]? = some id ∧
      (id ∈ seen ∨ ∃ i < j, (rules.map (·.id))[i]? = some id) := by
  induction rules generalizing seen with
  | nil => cases found
  | cons rule rest ih =>
      simp only [duplicateId?, List.contains_iff_mem] at found
      split at found
      · next old =>
          cases found
          exact ⟨0, rfl, .inl old⟩
      · obtain ⟨j, placed, earlier⟩ := ih found
        refine ⟨j + 1, placed, ?_⟩
        rcases earlier with old | ⟨i, before, placed'⟩
        · rcases List.mem_cons.mp old with rfl | older
          · exact .inr ⟨0, Nat.succ_pos j, rfl⟩
          · exact .inl older
        · exact .inr ⟨i + 1, Nat.succ_lt_succ before, placed'⟩

theorem create_eq_error {version defaultUnitId : Text} {rules : List Rule} {fault : Fault}
    (failed : create version defaultUnitId rules = .error fault) :
    ∃ (id : Text) (i j : Nat), i < j ∧ fault = .refused (.duplicateRuleId id) ∧
      (rules.map (·.id))[i]? = some id ∧ (rules.map (·.id))[j]? = some id := by
  unfold create at failed
  split at failed
  · cases failed
  · next id found =>
      cases failed
      obtain ⟨j, second, earlier⟩ := duplicateId?_eq_some found
      rcases earlier with seen | ⟨i, before, first⟩
      · cases seen
      · exact ⟨id, i, j, before, rfl, first, second⟩

/-- Where every rule can be loaded at its position, only the ids are left to be checked. -/
theorem load_eq_create {fields body : Fields} {raws : List Value}
    (root : Fields.get? configRootKey fields = some (.object body))
    (listed : body.get? "rules" = some (.list raws))
    (versionFits : (body.getOrNull "version").Fits)
    (unitFits : (body.getOrNull "default_unit_id").Fits)
    (each : ∀ place raw, raws[place]? = some raw → ∃ r, Rule.load (place + 1) raw = .ok r) :
    ∃ version defaultUnitId rules, rules.map (·.id) = Rule.assignedIds raws ∧
      load (.object fields) = (create version defaultUnitId rules).mapError Fault.inConfig := by
  obtain ⟨rules, loaded⟩ : ∃ rules, Rule.loadFrom 1 raws = .ok rules := by
    apply Rule.loadFrom_succeeds
    intro place raw found
    rw [Nat.add_comm]
    exact each place raw found
  obtain ⟨version, versionOk⟩ := Fields.textOr_of_fits versionFits defaultVersion
  obtain ⟨unit, unitOk⟩ := Fields.textOr_of_fits unitFits fallbackUnitId
  refine ⟨version, unit, rules, ?_, ?_⟩
  · rw [Rule.ids_of_loadFrom loaded, Rule.assignedIds]
    simp only [Nat.add_comm 1]
  · simp only [load, root, loadBody, listed, Option.getD_some, loaded, versionOk, unitOk, bind_ok]

end RuleSet

/-- If every rule of a configuration can be loaded at its position and no two give themselves the same
    id, the configuration is loaded exactly if no rule gives itself the id that one without an id is
    named. Then each rule has its own id, or else the one of its position; in the other case the
    configuration is refused for such an id. -/
theorem configuration_loads_iff_no_clash {fields body : Fields} {raws : List Value}
    (root : Fields.get? configRootKey fields = some (.object body))
    (listed : body.get? "rules" = some (.list raws))
    (versionFits : (body.getOrNull "version").Fits)
    (unitFits : (body.getOrNull "default_unit_id").Fits)
    (each : ∀ place raw, raws[place]? = some raw → ∃ r, Rule.load (place + 1) raw = .ok r)
    (distinct : (raws.filterMap Rule.givenId?).Nodup) :
    ((∃ rs, RuleSet.load (.object fields) = .ok rs) ↔ ∀ id, ¬Rule.Clash raws id) ∧
      (∀ rs, RuleSet.load (.object fields) = .ok rs →
        rs.rules.map (·.id) = Rule.assignedIds raws ∧ RuleSet.DistinctIds rs.rules) ∧
      ∀ fault, RuleSet.load (.object fields) = .error fault →
        ∃ id, fault = .config (.refused (.duplicateRuleId id)) ∧ Rule.Clash raws id := by
  obtain ⟨version, unit, rules, ids, same⟩ :=
    RuleSet.load_eq_create root listed versionFits unitFits each
  rw [same]
  have refused {fault : Fault}
      (failed : (RuleSet.create version unit rules).mapError Fault.inConfig = .error fault) :
      ∃ id, fault = .config (.refused (.duplicateRuleId id)) ∧ Rule.Clash raws id := by
    obtain ⟨cause, unmade, rfl⟩ := mapError_eq_error.mp failed
    obtain ⟨id, i, j, before, rfl, first, second⟩ := RuleSet.create_eq_error unmade
    rw [ids] at first second
    exact ⟨id, rfl, Rule.clash_of_repeated distinct before first second⟩
  have accepted {rs : RuleSet}
      (made : (RuleSet.create version unit rules).mapError Fault.inConfig = .ok rs) :
      rs.rules.map (·.id) = Rule.assignedIds raws ∧ RuleSet.DistinctIds rs.rules := by
    obtain ⟨distinct, rfl⟩ := RuleSet.create_eq_ok.mp (mapError_eq_ok.mp made)
    exact ⟨ids, distinct⟩
  refine ⟨⟨?_, ?_⟩, fun _ => accepted, fun _ => refused⟩
  · rintro ⟨rs, made⟩ id clash
    obtain ⟨sameIds, distinct⟩ := accepted made
    exact clash.not_nodup (sameIds ▸ distinct)
  · intro none
    cases outcome : (RuleSet.create version unit rules).mapError Fault.inConfig with
    | ok rs => exact ⟨rs, rfl⟩
    | error fault =>
        obtain ⟨id, -, clash⟩ := refused outcome
        exact absurd clash (none id)

/-- Rules with and without ids side by side: a number and a truth value are ids as well. -/
theorem mixed_ids_do_not_clash :
    let raws : List Value := [.object [], .object [("id", .text "rule-1.0")],
      .object [("id", .int 0), ("priority", .text " 7 ")], .object [("id", .bool true)]]
    let document : Value := .object [(configRootKey, .object [("rules", .list raws)])]
    (∀ place raw, raws[place]? = some raw → ∃ r, Rule.load (place + 1) raw = .ok r) ∧
      (raws.filterMap Rule.givenId?).Nodup ∧
      ∃ rs, RuleSet.load document = .ok rs ∧
        rs.rules.map (·.id) = [("rule-1" : Text), "rule-1.0", "rule-3", "True"] := by
  intro raws document
  have each : ∀ place raw, raws[place]? = some raw → ∃ r, Rule.load (place + 1) raw = .ok r := by
    intro place raw found
    match place with
    | 0 | 1 | 2 | 3 =>
        cases found
        exact exists_of_isOk (by decide +kernel)
    | place + 4 => cases found
  have distinct : (raws.filterMap Rule.givenId?).Nodup := by decide +kernel
  have root : Fields.get? configRootKey [(configRootKey, .object [("rules", .list raws)])] =
      some (.object [("rules", .list raws)]) := rfl
  obtain ⟨loads, ids, -⟩ :=
    configuration_loads_iff_no_clash root rfl trivial trivial each distinct
  have given : raws.filterMap Rule.givenId? = [("rule-1.0" : Text), "True"] := by decide +kernel
  have assigned : Rule.assignedIds raws = [("rule-1" : Text), "rule-1.0", "rule-3", "True"] := by
    decide +kernel
  obtain ⟨rs, loaded⟩ : ∃ rs, RuleSet.load document = .ok rs := by
    apply loads.mpr
    intro id clash
    apply clash.not_nodup
    rw [assigned]
    decide +kernel
  exact ⟨each, distinct, rs, loaded, (ids rs loaded).1.trans assigned⟩

/-- Two rules that can be loaded, of which one gives itself an id and the other none, are refused
    together: the position of the second one names it like the first. -/
theorem position_names_second_rule_like_first :
    let raws : List Value := [.object [("id", .text "rule-2")], .object []]
    let document : Value := .object [(configRootKey, .object [("rules", .list raws)])]
    (∀ place raw, raws[place]? = some raw → ∃ r, Rule.load (place + 1) raw = .ok r) ∧
      (raws.filterMap Rule.givenId?).Nodup ∧
      RuleSet.load document = .error (.config (.refused (.duplicateRuleId "rule-2"))) := by
  intro raws document
  refine ⟨?_, by decide +kernel, ?_⟩
  · intro place raw found
    match place with
    | 0 | 1 =>
        cases found
        exact exists_of_isOk (by decide +kernel)
    | place + 2 => cases found
  · have told : (RuleSet.load document).map (fun _ => ()) =
        .error (.config (.refused (.duplicateRuleId "rule-2"))) := by
      decide +kernel
    exact map_eq_error.mp told

end UnitRouting

import UnitRouting.Config.Build
import UnitRouting.Config.Load
import UnitRouting.Proofs.Condition.Shape
import UnitRouting.Proofs.Config.Kept
import UnitRouting.Proofs.Rule.Creation

/-! # Configurations are read back

What is built from conditions of the right shape loads again as what a configuration keeps of them:
for a condition, for the conditions of a rule, for a rule and for a rule set. -/

namespace UnitRouting

open Outcome

theorem isGiven_text {t : Text} (nonempty : t ≠ []) : (Value.text t).isGiven = true := by
  simpa only [Value.isGiven, Bool.not_eq_true', List.isEmpty_eq_false_iff] using nonempty

theorem Fields.textOr_text {fields : Fields} {name t : Text}
    (found : fields.getOrNull name = .text t) (fallback : Text) :
    fields.textOr name fallback = .ok (if t.isEmpty then fallback else t) := by
  cases t with
  | nil => simp only [textOr, found]; rfl
  | cons c rest => simp only [textOr, found]; rfl

namespace Condition

theorem create_text {field operator : Text} (stripped : operator.strip = operator) (raw : Value) :
    create (.text field) (.text operator) raw = shaped field operator raw := by
  simp only [create, fieldText, Value.operatorText, bind_ok, stripped]

theorem createSet_list (field operator : Text) {values : List Text}
    (stripped : ∀ m ∈ values, m.strip = m) :
    createSet field operator (.list (values.map .text)) =
      .ok ⟨field, operator, none, values, some (Text.join ", " values)⟩ := by
  have texts : (values.map Value.text).mapM (Value.scalarText memberRole) = .ok values := by
    rw [mapM_eq_ok, List.forall₂_map_left_iff, List.forall₂_same]
    exact fun _ _ => rfl
  have members : values.map Text.strip = values :=
    (List.map_congr_left stripped).trans (List.map_id' values)
  simp only [createSet, texts, bind_ok, members]
  rfl

/-- The value of a condition is written so that its operator reads the same value from it. -/
theorem shaped_clause {c : Condition} (formed : c.WellFormed) {fields : Fields}
    (clause : c.clause = .object fields) :
    shaped c.field c.operator
      ((Fields.get? "values" fields).getD (Fields.getOrNull "value" fields)) = .ok c.kept := by
  obtain ⟨field, operator, value, values, source⟩ := c
  simp only [Condition.clause, Value.object.injEq] at clause
  subst clause
  simp only [shaped, kept]
  cases shape : ValueShape.ofName operator with
  | valueless =>
      obtain ⟨rfl, rfl⟩ := formed.valueless (ValueShape.ofName_eq_valueless.mp shape)
      rfl
  | set =>
      obtain ⟨rfl, stripped⟩ := formed.set (ValueShape.ofName_eq_set.mp shape)
      exact createSet_list field operator stripped
  | single =>
      obtain rfl : values = [] := formed.single
        (fun set => by rw [ValueShape.ofName_eq_set.mpr set] at shape; cases shape)
        (fun none => by rw [ValueShape.ofName_eq_valueless.mpr none] at shape; cases shape)
      cases value <;> rfl

theorem load?_clause {c : Condition} (formed : c.WellFormed) (valid : c.isValid = true)
    (label : Text) : load? label c.clause = .ok (some c.kept) := by
  simp only [isValid, Bool.and_eq_true, Bool.not_eq_true', List.isEmpty_eq_false_iff] at valid
  obtain ⟨fields, clause⟩ : ∃ fields, c.clause = .object fields := ⟨_, rfl⟩
  have read := shaped_clause formed clause
  have field : Fields.getOrNull "field" fields = .text c.field := by
    cases clause
    rfl
  have operator : Fields.getOrNull "operator" fields = .text c.operator := by
    cases clause
    rfl
  rw [clause]
  simp only [load?, field, operator, isGiven_text (Text.ne_nil_of_strip valid.1),
    isGiven_text valid.2, Bool.and_self, if_true, create_text formed.operator, read]
  rfl

theorem filterMap_build? (conditions : List Condition) :
    conditions.filterMap build? = (conditions.filter isValid).map clause := by
  induction conditions with
  | nil => rfl
  | cons c rest ih =>
      cases valid : c.isValid <;>
        simp only [List.filterMap_cons, build?, valid, List.filter_cons, ih, if_true,
          Bool.false_eq_true, if_false, List.map_cons]

theorem loadAll_clauses {conditions : List Condition}
    (formed : ∀ c ∈ conditions, c.WellFormed) (valid : ∀ c ∈ conditions, c.isValid = true)
    (label : Text) : loadAll label (conditions.map clause) = .ok (conditions.map kept) := by
  have each : (conditions.map clause).mapM (load? label) =
      .ok (conditions.map fun c => some c.kept) := by
    rw [mapM_eq_ok, List.forall₂_map_left_iff, List.forall₂_map_right_iff, List.forall₂_same]
    exact fun c member => load?_clause (formed c member) (valid c member) label
  have every : (conditions.map fun c => some c.kept).filterMap id = conditions.map kept := by
    rw [List.filterMap_map]
    exact congrFun List.filterMap_eq_map conditions
  simp only [loadAll, each, bind_ok, every]
  rfl

/-- A condition that stands alone is not taken for a list of conditions. -/
theorem loadConditions_clause {c : Condition} (formed : c.WellFormed) (valid : c.isValid = true)
    (label : Text) :
    loadConditions label c.clause = .ok ([c.kept], Combinator.all.name) := by
  obtain ⟨fields, clause⟩ : ∃ fields, c.clause = .object fields := ⟨_, rfl⟩
  have alone : Fields.get? "clauses" fields = none := by
    simp only [Condition.clause, Value.object.injEq] at clause
    subst clause
    cases ValueShape.ofName c.operator <;> rfl
  have read := load?_clause formed valid label
  rw [clause] at read
  rw [clause, loadConditions, alone]
  simp only [read, bind_ok]
  rfl

end Condition

namespace Rule

variable {r : Rule}

theorem loadConditions_build (formed : ∀ c ∈ r.conditions, c.WellFormed) {conditions : Value}
    (built : r.buildConditions? = some conditions) (label : Text) :
    Condition.loadConditions label conditions = .ok (r.kept.conditions, r.kept.combinator.name) := by
  have valid : ∀ c ∈ r.validConditions, c.isValid = true :=
    fun c member => (List.mem_filter.mp member).2
  have formed : ∀ c ∈ r.validConditions, c.WellFormed :=
    fun c member => formed c (List.mem_filter.mp member).1
  have clauses : r.conditions.filterMap Condition.build? = r.validConditions.map Condition.clause :=
    Condition.filterMap_build? r.conditions
  rw [buildConditions?, clauses] at built
  simp only [kept]
  cases given : r.validConditions with
  | nil =>
      rw [given] at built
      cases built
  | cons c rest =>
      rw [given] at built valid formed
      cases rest with
      | nil =>
          cases built
          exact Condition.loadConditions_clause (formed c List.mem_cons_self)
            (valid c List.mem_cons_self) label
      | cons d rest =>
          cases built
          have loaded := Condition.loadAll_clauses formed valid label
          have combinator : Fields.textOr "operator" Combinator.all.name
              [("operator", .text r.combinator.name),
                ("clauses", .list ((c :: d :: rest).map Condition.clause))] =
                .ok r.combinator.name := by
            cases r.combinator <;> rfl
          have several : (c :: d :: rest).length ≠ 1 := by simp
          have found : Fields.get? "clauses" [("operator", .text r.combinator.name),
              ("clauses", .list ((c :: d :: rest).map Condition.clause))] =
                some (.list ((c :: d :: rest).map Condition.clause)) := rfl
          simp only [Condition.loadConditions, List.map_cons] at loaded combinator found ⊢
          simp only [found, loaded, combinator, bind_ok, if_neg several]
          rfl

theorem name_kept_nonempty (named : r.id ≠ []) : r.kept.name.isEmpty = false := by
  simp only [kept]
  split
  · exact List.isEmpty_eq_false_iff.mpr named
  · next given => exact Bool.eq_false_iff.mpr given

theorem load_build (named : r.id ≠ []) (formed : ∀ c ∈ r.conditions, c.WellFormed) {v : Value}
    (built : r.build? = some v) (index : Nat) : load index v = .ok r.kept := by
  unfold build? at built
  split at built
  · cases built
  · next unit =>
      obtain ⟨conditions, builtConditions, rfl⟩ := Option.map_eq_some_iff.mp built
      let result : Fields := [("unit_id", .text r.unitId)]
      let fields : Fields := [("id", .text r.id), ("name", .text r.kept.name),
        ("priority", .int r.priority), ("conditions", conditions), ("result", .object result)]
      have idRead : fields.textOr "id" (fallbackId index) = .ok r.id := by
        rw [Fields.textOr_text rfl, if_neg (by simpa using named)]
      have nameRead : fields.textOr "name" r.id = .ok r.kept.name := by
        rw [Fields.textOr_text rfl, if_neg (Bool.eq_false_iff.mp (name_kept_nonempty named))]
      have unitRead : result.textOr "unit_id" [] = .ok r.unitId := by
        rw [Fields.textOr_text rfl, if_neg unit]
      have conditionsRead : Condition.loadConditions r.id.quoted (fields.getOrNull "conditions") =
          .ok (r.kept.conditions, r.kept.combinator.name) :=
        loadConditions_build formed builtConditions r.id.quoted
      have resultRead : resultFields r.id.quoted (fields.getOrNull "result") = .ok result := rfl
      have made : create r.kept.toInput = .ok r.kept := create_toInput named
      change load index (.object fields) = _
      simp only [load, idRead, conditionsRead, resultRead, nameRead, unitRead, bind_ok]
      exact congrArg (inRule r.id.quoted) made

theorem isSome_build? (r : Rule) : r.build?.isSome = r.isEvaluable := by
  have conditions : r.buildConditions?.isSome = !r.validConditions.isEmpty := by
    have clauses : r.conditions.filterMap Condition.build? = r.validConditions.map Condition.clause :=
      Condition.filterMap_build? r.conditions
    rw [buildConditions?, clauses]
    cases r.validConditions with
    | nil => rfl
    | cons c rest => cases rest <;> rfl
  unfold build? isEvaluable
  split
  · next unit => simp only [unit, Option.isSome_none, Bool.not_true, Bool.false_and]
  · next unit =>
      simp only [Bool.eq_false_iff.mpr unit, Option.isSome_map, conditions, Bool.not_false,
        Bool.true_and]

theorem loadFrom_build {rules : List Rule} (named : ∀ r ∈ rules, r.id ≠ [])
    (formed : ∀ r ∈ rules, ∀ c ∈ r.conditions, c.WellFormed) (index : Nat) :
    loadFrom index (rules.filterMap build?) = .ok ((rules.filter isEvaluable).map kept) := by
  induction rules generalizing index with
  | nil => rfl
  | cons r rest ih =>
      have later := fun index => ih (fun s member => named s (List.mem_cons_of_mem r member))
        (fun s member => formed s (List.mem_cons_of_mem r member)) index
      have evaluable := isSome_build? r
      cases built : r.build? with
      | none =>
          rw [built, Option.isSome_none] at evaluable
          simp only [List.filterMap_cons, built, List.filter_cons, ← evaluable, Bool.false_eq_true,
            if_false, later]
      | some v =>
          rw [built, Option.isSome_some] at evaluable
          have here :=
            load_build (named r List.mem_cons_self) (formed r List.mem_cons_self) built index
          simp only [List.filterMap_cons, built, List.filter_cons, ← evaluable, if_true, loadFrom,
            here, later, bind_ok, List.map_cons]
          rfl

end Rule

namespace RuleSet

variable {rs : RuleSet}

/-- What is built from a rule set loads as what a configuration keeps of it. -/
theorem load_build (distinct : DistinctIds rs.rules) (named : ∀ r ∈ rs.rules, r.id ≠ [])
    (formed : ∀ r ∈ rs.rules, ∀ c ∈ r.conditions, c.WellFormed) : load rs.build = .ok rs.kept := by
  let body : Fields := [("version", .text rs.version), ("default_unit_id", .text rs.defaultUnitId),
    ("rules", .list (rs.rules.filterMap Rule.build?))]
  have version : body.textOr "version" defaultVersion = .ok rs.kept.version :=
    Fields.textOr_text rfl defaultVersion
  have defaultUnitId : body.textOr "default_unit_id" fallbackUnitId = .ok rs.kept.defaultUnitId :=
    Fields.textOr_text rfl fallbackUnitId
  have rules : Rule.loadFrom 1 (rs.rules.filterMap Rule.build?) = .ok rs.kept.rules :=
    Rule.loadFrom_build named formed 1
  have made : create rs.kept.version rs.kept.defaultUnitId rs.kept.rules = .ok rs.kept :=
    create_of_distinct (distinctIds_kept distinct)
  have listed : (body.get? "rules").getD (.list []) = .list (rs.rules.filterMap Rule.build?) := rfl
  change loadBody body = _
  simp only [loadBody, listed, rules, version, defaultUnitId, made, bind_ok]
  rfl

end RuleSet

end UnitRouting

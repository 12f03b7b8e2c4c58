import UnitRouting.Config.Load
import UnitRouting.Proofs.Json.Limit
import UnitRouting.Proofs.Rule.Creation

/-! # Defects of configurations

A configuration is loaded or has a defect. Nothing that it may hold, of whatever kind and however deep,
makes loading fail in another way, as long as its integers can be shown. -/

namespace UnitRouting

open Outcome

/-- The fault is a defect of a configuration. -/
def Fault.IsDefect (fault : Fault) : Prop := ∃ defect, fault = .config defect

theorem inRule_settles {α : Type} {good : α → Prop} {result : Except Fault α} (label : Text)
    (settles : Settles (Fault.OfInput True) good result) :
    Settles Fault.IsDefect good (inRule label result) := by
  cases settles with
  | ok here => exact .ok here
  | error ofInput =>
      cases ofInput with
      | refused other => exact .error ⟨_, rfl⟩
      | numeralTooLong improper | wrongKind improper => exact absurd trivial improper

namespace Fields

variable {fields : Fields}

theorem fits_getOrNull (fits : Value.FitsFields fields) (name : Text) :
    (fields.getOrNull name).Fits := by
  have null : Value.null.Fits := trivial
  exact Value.fits_getD fits null name

theorem textOr_of_fits {name : Text} (fits : (fields.getOrNull name).Fits) (fallback : Text) :
    ∃ t, fields.textOr name fallback = .ok t := by
  unfold textOr
  dsimp only
  split
  · exact Value.display_succeeds fits
  · exact ⟨fallback, rfl⟩

theorem textOr_succeeds (fits : Value.FitsFields fields) (name fallback : Text) :
    ∃ t, fields.textOr name fallback = .ok t :=
  textOr_of_fits (fits_getOrNull fits name) fallback

theorem textOr_settles (fits : Value.FitsFields fields) (name fallback : Text) :
    Settles Fault.IsDefect (fun _ => True) (fields.textOr name fallback) := by
  obtain ⟨t, given⟩ := textOr_succeeds fits name fallback
  rw [given]
  exact .ok trivial

end Fields

namespace Condition

/-- Conditions show nothing of what they are made of, so it does not have to fit. -/
theorem load?_settles (label : Text) (v : Value) :
    Settles Fault.IsDefect (fun _ => True) (load? label v) := by
  cases v with
  | object fields =>
      simp only [load?]
      split
      · apply inRule_settles
        exact (create_ofInput _ _ _).map fun _ _ => trivial
      · exact .ok trivial
  | _ => exact .error ⟨_, rfl⟩

theorem loadAll_settles (label : Text) (clauses : List Value) :
    Settles Fault.IsDefect (fun _ => True) (loadAll label clauses) :=
  (Settles.mapM fun clause _ => load?_settles label clause).bind fun _ _ => .ok trivial

theorem loadConditions_settles (label : Text) {v : Value} (fits : v.Fits) :
    Settles Fault.IsDefect (fun _ => True) (loadConditions label v) := by
  cases v with
  | null => exact .ok trivial
  | object fields =>
      simp only [loadConditions]
      split
      · next clauses _ =>
          apply (loadAll_settles label clauses).bind
          intro _ _
          exact (Fields.textOr_settles fits _ _).bind fun _ _ => .ok trivial
      · exact .error ⟨_, rfl⟩
      · exact (load?_settles label _).bind fun _ _ => .ok trivial
  | _ => exact .error ⟨_, rfl⟩

end Condition

namespace Rule

theorem resultFields_settles (label : Text) {v : Value} (fits : v.Fits) :
    Settles Fault.IsDefect Value.FitsFields (resultFields label v) := by
  unfold resultFields
  split
  · split
    · exact .ok fits
    · exact .error ⟨_, rfl⟩
  · exact .ok trivial

/-- The texts of a loaded rule and its conditions are in order by then; its priority may still be
    refused. -/
theorem create_loaded_settles (id name unitId operator : Text) (conditions : List Condition)
    {priority : Value} (fits : priority.Fits) :
    Settles (Fault.OfInput True) (fun _ => True)
      (create
        { id := .text id
          name := .text name
          priority := priority
          unitId := .text unitId
          combinator := .text operator
          conditions := .entries (conditions.map some) }) := by
  apply create_settles
  case priority => exact priority.priority_ofInput.requiring fun _ => fits
  case combinator => exact (Value.text operator).combinator_ofInput.requiring fun _ => trivial
  case unitId => exact .ok trivial
  case name => exact .ok trivial
  case conditions =>
    rw [ConditionsInput.conditions_eq_ok.mpr rfl]
    exact .ok trivial

theorem load_settles (index : Nat) {v : Value} (fits : v.Fits) :
    Settles Fault.IsDefect (fun _ => True) (load index v) := by
  cases v with
  | object fields =>
      apply (Fields.textOr_settles fits _ _).bind
      intro id _
      apply (Condition.loadConditions_settles id.quoted (Fields.fits_getOrNull fits _)).bind
      rintro ⟨conditions, operator⟩ _
      apply (resultFields_settles id.quoted (Fields.fits_getOrNull fits _)).bind
      intro result fitsToo
      apply (Fields.textOr_settles fits _ _).bind
      intro name _
      apply (Fields.textOr_settles fitsToo _ _).bind
      intro unitId _
      apply inRule_settles
      exact create_loaded_settles id name unitId operator conditions
        (Value.fits_getD fits Value.fits_zero _)
  | _ => exact .error ⟨_, rfl⟩

theorem loadFrom_settles (index : Nat) {raws : List Value} (fits : Value.FitsItems raws) :
    Settles Fault.IsDefect (fun _ => True) (loadFrom index raws) := by
  induction raws generalizing index with
  | nil => exact .ok trivial
  | cons raw rest ih =>
      apply (load_settles index fits.1).bind
      intro _ _
      exact (ih (index + 1) fits.2).bind fun _ _ => .ok trivial

end Rule

namespace RuleSet

theorem create_settles (version defaultUnitId : Text) (rules : List Rule) :
    Settles Fault.IsDefect (fun _ => True)
      ((create version defaultUnitId rules).mapError Fault.inConfig) := by
  unfold create
  split
  · exact .ok trivial
  · exact .error ⟨_, rfl⟩

theorem loadBody_settles {body : Fields} (fits : Value.FitsFields body) :
    Settles Fault.IsDefect (fun _ => True) (loadBody body) := by
  unfold loadBody
  split
  · next raws listed =>
      have none : (Value.list []).Fits := trivial
      have each : (Value.list raws).Fits := listed ▸ Value.fits_getD fits none _
      apply (Rule.loadFrom_settles 1 each).bind
      intro rules _
      apply (Fields.textOr_settles fits _ _).bind
      intro version _
      apply (Fields.textOr_settles fits _ _).bind
      intro defaultUnitId _
      exact create_settles version defaultUnitId rules
  · exact .error ⟨_, rfl⟩

theorem load_settles {v : Value} (fits : v.Fits) :
    Settles Fault.IsDefect (fun _ => True) (load v) := by
  cases v with
  | object fields =>
      simp only [load]
      split
      · next body found => exact loadBody_settles (Value.fits_of_get? fits found)
      · exact .error ⟨_, rfl⟩
  | _ => exact .error ⟨_, rfl⟩

/-- A configuration text cannot be parsed for a defect only, or because it cannot even be read. -/
theorem isDefect_of_parse {t : Text} {fault : Fault} (failed : parse t = .error fault) :
    fault.IsDefect ∨ Json.read t = .error fault := by
  rcases bind_eq_error.mp failed with unread | ⟨v, read, unloaded⟩
  · cases met : Json.read t with
    | ok v =>
        rw [met] at unread
        cases unread
    | error cause =>
        rw [met] at unread
        cases unread
        cases cause with
        | json error position => exact .inl ⟨_, rfl⟩
        | _ => exact .inr rfl
  · have fits := Json.fits_of_read (mapError_eq_ok.mp read)
    exact .inl ((load_settles fits).of_error unloaded)

end RuleSet

/-- Whatever a value holds, as long as its integers can be shown: it is loaded, or it has a defect. -/
theorem configuration_loads_or_has_defect {v : Value} (fits : v.Fits) :
    (∃ rs, RuleSet.load v = .ok rs) ∨ ∃ defect, RuleSet.load v = .error (.config defect) := by
  cases loaded : RuleSet.load v with
  | ok rs => exact .inl ⟨rs, rfl⟩
  | error fault =>
      obtain ⟨defect, rfl⟩ := (RuleSet.load_settles fits).of_error loaded
      exact .inr ⟨defect, rfl⟩

/-- A rule with a truth value for an id, a condition that names nothing and a list for a priority. -/
theorem list_for_priority_is_defect :
    let priority : Value := .list [.float .nan, .object [("level", .int 7)]]
    let rule : Value := .object [("id", .bool true), ("priority", priority),
      ("conditions", .object [("clauses", .list [.object [("field", .list [])]])])]
    let document : Value := .object [(configRootKey, .object [("rules", .list [rule])])]
    document.Fits ∧ ∃ defect, RuleSet.load document = .error (.config defect) ∧
      defect.message = "rule 'True': priority must be an integer, got [nan, \x7b'level': 7\x7d]" := by
  intro priority rule document
  have seven : (Value.int 7).Fits :=
    Nat.lt_of_lt_of_le (by decide : 7 < tenTo 1) (tenTo_le_tenTo (by decide))
  have fits : document.Fits :=
    ⟨⟨⟨⟨trivial, ⟨trivial, ⟨seven, trivial⟩, trivial⟩, ⟨⟨⟨trivial, trivial⟩, trivial⟩, trivial⟩,
      trivial⟩, trivial⟩, trivial⟩, trivial⟩
  have told : ((RuleSet.load document).map fun _ => ()).mapError Fault.message? =
      .error (some
        "rule 'True': priority must be an integer, got [nan, \x7b'level': 7\x7d]") := by
    decide +kernel
  refine ⟨fits, ?_⟩
  rcases configuration_loads_or_has_defect fits with ⟨rs, loaded⟩ | ⟨defect, failed⟩
  · rw [loaded] at told
    cases told
  · rw [failed] at told
    exact ⟨defect, failed, Option.some.inj (Except.error.inj told)⟩

end UnitRouting

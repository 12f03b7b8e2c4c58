import UnitRouting.Proofs.Condition.Shape
import UnitRouting.Rule.Basic

/-! # Making rules

A rule is made from five values and a list of conditions, each of which is accepted on its own. A
rule with an id can be made again from what it shows. -/

namespace UnitRouting

open Outcome

theorem Value.combinator_name (combinator : Combinator) :
    Value.combinator (.text combinator.name) = .ok combinator := by
  cases combinator <;> rfl

namespace ConditionsInput

theorem mapM_id_eq_some {given : List (Option Condition)} {conditions : List Condition} :
    given.mapM id = some conditions ↔ given = conditions.map some := by
  induction given generalizing conditions with
  | nil => cases conditions <;> simp
  | cons entry rest ih =>
      cases entry with
      | none => cases conditions <;> simp
      | some c =>
          cases conditions with
          | nil => simp [Option.bind_eq_some_iff]
          | cons d more => simp [Option.bind_eq_some_iff, ih, and_comm]

theorem conditions_eq_ok {input : ConditionsInput} {conditions : List Condition} :
    input.conditions = .ok conditions ↔ input = .entries (conditions.map some) := by
  cases input with
  | notList =>
      constructor
      · intro accepted
        cases accepted
      · intro same
        cases same
  | entries given =>
      simp only [ConditionsInput.conditions, entries.injEq, ← mapM_id_eq_some]
      cases given.mapM id <;> simp

end ConditionsInput

namespace Value

variable {proper : Prop}

theorem labelText_ofInput (v : Value) :
    Settles (Fault.OfInput v.Fits) (fun _ => True) v.labelText := by
  unfold labelText
  split
  · exact .ok trivial
  · exact display_ofInput v

theorem priority_ofInput (v : Value) :
    Settles (Fault.OfInput v.Fits) (fun _ => True) v.priority := by
  unfold priority
  split
  · exact .ok trivial
  · split
    · exact .error (.refused rfl)
    · exact v.shown_ofInput.bind fun _ _ => .error (.refused rfl)

theorem combinator_ofInput (v : Value) :
    Settles (Fault.OfInput v.Fits) (fun _ => True) v.combinator := by
  apply v.operatorText_ofInput.bind
  intro name _
  dsimp only
  split
  · exact .ok trivial
  · split
    · exact .ok trivial
    · exact v.shown_ofInput.bind fun _ _ => .error (.refused rfl)

end Value

theorem ConditionsInput.conditions_ofInput (input : ConditionsInput) :
    Settles (Fault.OfInput (input ≠ .notList)) (fun _ => True) input.conditions := by
  unfold ConditionsInput.conditions
  split
  · exact .error (.wrongKind fun listed => listed rfl)
  · split
    · exact .ok trivial
    · exact .error (.refused rfl)

namespace Rule

theorem idText_eq_ok {value : Value} {id : Text} :
    idText value = .ok id ↔ value = .text id ∧ id ≠ [] := by
  unfold idText
  split
  · next c rest =>
      constructor
      · rintro ⟨⟩
        exact ⟨rfl, List.cons_ne_nil c rest⟩
      · rintro ⟨⟨⟩, -⟩
        rfl
  · next other =>
      constructor
      · rintro ⟨⟩
      · rintro ⟨rfl, nonempty⟩
        obtain ⟨c, rest, rfl⟩ := List.exists_cons_of_ne_nil nonempty
        exact absurd rfl (other c rest)

theorem create_eq_ok {input : RuleInput} {r : Rule} :
    create input = .ok r ↔ idText input.id = .ok r.id ∧ input.priority.priority = .ok r.priority ∧
      input.combinator.combinator = .ok r.combinator ∧ input.unitId.labelText = .ok r.unitId ∧
      input.name.labelText = .ok r.name ∧ input.conditions.conditions = .ok r.conditions := by
  simp only [create, bind_eq_ok, pure_ok, Except.ok.injEq]
  constructor
  · rintro ⟨id, idOk, priority, priorityOk, combinator, combinatorOk, unitId, unitOk, name, nameOk,
      conditions, conditionsOk, rfl⟩
    exact ⟨idOk, priorityOk, combinatorOk, unitOk, nameOk, conditionsOk⟩
  · rintro ⟨idOk, priorityOk, combinatorOk, unitOk, nameOk, conditionsOk⟩
    exact ⟨_, idOk, _, priorityOk, _, combinatorOk, _, unitOk, _, nameOk, _, conditionsOk, rfl⟩

theorem id_ne_nil_of_create {input : RuleInput} {r : Rule} (made : create input = .ok r) :
    r.id ≠ [] :=
  (idText_eq_ok.mp (create_eq_ok.mp made).1).2

theorem create_toInput {r : Rule} (named : r.id ≠ []) : create r.toInput = .ok r :=
  create_eq_ok.mpr ⟨idText_eq_ok.mpr ⟨rfl, named⟩, rfl, Value.combinator_name r.combinator, rfl, rfl,
    ConditionsInput.conditions_eq_ok.mpr rfl⟩

theorem idText_ofInput {proper : Prop} (value : Value) :
    Settles (Fault.OfInput proper) (fun _ => True) (idText value) := by
  unfold idText
  split
  · exact .ok trivial
  · exact .error (.refused rfl)

theorem create_settles {proper : Prop} {input : RuleInput}
    (priority : Settles (Fault.OfInput proper) (fun _ => True) input.priority.priority)
    (combinator : Settles (Fault.OfInput proper) (fun _ => True) input.combinator.combinator)
    (unitId : Settles (Fault.OfInput proper) (fun _ => True) input.unitId.labelText)
    (name : Settles (Fault.OfInput proper) (fun _ => True) input.name.labelText)
    (conditions : Settles (Fault.OfInput proper) (fun _ => True) input.conditions.conditions) :
    Settles (Fault.OfInput proper) (fun _ => True) (create input) := by
  apply (idText_ofInput input.id).bind
  intro _ _
  apply priority.bind
  intro _ _
  apply combinator.bind
  intro _ _
  apply unitId.bind
  intro _ _
  apply name.bind
  intro _ _
  exact conditions.bind fun _ _ => .ok trivial

end Rule

/-- Nothing has to be given but an id. -/
structure RuleInput.Complete (input : RuleInput) : Prop where
  priority : ∃ n, input.priority.priority = .ok n
  combinator : ∃ combinator, input.combinator.combinator = .ok combinator
  unitId : ∃ t, input.unitId.labelText = .ok t
  name : ∃ t, input.name.labelText = .ok t
  conditions : input.conditions ≠ .notList

/-- What the edit gives can be shown, and the conditions among it are a list. -/
structure RuleEdit.Proper (edit : RuleEdit) : Prop where
  name : ∀ v, edit.name = some v → v.Fits
  priority : ∀ v, edit.priority = some v → v.Fits
  unitId : ∀ v, edit.unitId = some v → v.Fits
  combinator : ∀ v, edit.combinator = some v → v.Fits
  conditions : edit.conditions ≠ some .notList

theorem Outcome.Settles.getD {α : Type} {part : Value → Except Fault α}
    (settles : ∀ v : Value, Settles (Fault.OfInput v.Fits) (fun _ => True) (part v))
    {base : Value} (complete : ∃ a, part base = .ok a) (given : Option Value) :
    Settles (Fault.OfInput (∀ v, given = some v → v.Fits)) (fun _ => True)
      (part (given.getD base)) := by
  cases given with
  | none =>
      obtain ⟨a, accepted⟩ := complete
      rw [Option.getD_none, accepted]
      exact .ok trivial
  | some v => exact (settles v).requiring fun fit => fit v rfl

namespace Rule

theorem complete_toInput (r : Rule) : r.toInput.Complete :=
  ⟨⟨_, rfl⟩, ⟨_, Value.combinator_name r.combinator⟩, ⟨_, rfl⟩, ⟨_, rfl⟩, by nofun⟩

theorem create_applyTo_ofInput {input : RuleInput} (complete : input.Complete) (edit : RuleEdit) :
    Settles (Fault.OfInput edit.Proper) (fun _ => True) (create (edit.applyTo input)) := by
  apply create_settles
  case priority =>
    exact (Settles.getD Value.priority_ofInput complete.priority _).requiring (·.priority)
  case combinator =>
    exact (Settles.getD Value.combinator_ofInput complete.combinator _).requiring (·.combinator)
  case unitId =>
    exact (Settles.getD Value.labelText_ofInput complete.unitId _).requiring (·.unitId)
  case name => exact (Settles.getD Value.labelText_ofInput complete.name _).requiring (·.name)
  case conditions =>
    apply (edit.applyTo input).conditions.conditions_ofInput.requiring
    intro proper none
    cases given : edit.conditions with
    | none =>
        rw [RuleEdit.applyTo, given] at none
        exact complete.conditions none
    | some handed =>
        rw [RuleEdit.applyTo, given] at none
        exact proper.conditions (given.trans (congrArg some none))

theorem withChanges_eq_ok {r s : Rule} {edit : RuleEdit} :
    r.withChanges edit = .ok s ↔ edit.unknown = [] ∧ create (edit.applyTo r.toInput) = .ok s := by
  unfold withChanges
  split
  · next none => simp only [none, true_and]
  · next some =>
      constructor
      · intro refused
        cases refused
      · rintro ⟨none, -⟩
        exact absurd none some

theorem withChanges_expected (r : Rule) (edit : RuleEdit) :
    Settles (Fault.Expected edit.Proper) (fun _ => True) (r.withChanges edit) := by
  unfold withChanges
  split
  · exact (create_applyTo_ofInput r.complete_toInput edit).weaken fun _ => Fault.OfInput.expected
  · exact .error (.refused rfl)

theorem id_of_withChanges {r s : Rule} {edit : RuleEdit} (changed : r.withChanges edit = .ok s) :
    s.id = r.id := by
  have idRead := (create_eq_ok.mp (withChanges_eq_ok.mp changed).2).1
  have same := (idText_eq_ok.mp idRead).1
  exact (Value.text.inj same).symm

theorem withChanges_ofConditions {r : Rule} (named : r.id ≠ []) (conditions : List Condition) :
    r.withChanges (.ofConditions conditions) = .ok { r with conditions } := by
  have made : create ({ r with conditions } : Rule).toInput = .ok { r with conditions } :=
    create_toInput named
  exact withChanges_eq_ok.mpr ⟨rfl, made⟩

theorem eq_of_withChanges_ofConditions {r s : Rule} {conditions : List Condition}
    (changed : r.withChanges (.ofConditions conditions) = .ok s) : s = { r with conditions } := by
  have made : create ({ r with conditions } : Rule).toInput = .ok s :=
    (withChanges_eq_ok.mp changed).2
  have named : r.id ≠ [] := id_of_withChanges changed ▸ id_ne_nil_of_create made
  rw [withChanges_ofConditions named] at changed
  exact (Except.ok.inj changed).symm

end Rule

end UnitRouting

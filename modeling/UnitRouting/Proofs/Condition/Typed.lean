import UnitRouting.Proofs.Condition.Shape
import UnitRouting.Rule.Basic

/-! # Conditions of typed text

An author types a text once and then changes the field and the operator of the condition as often as
they like. Operators keep the text in different places, or have no use for it at all, but none of
them loses it: the condition is always the one that the last choice makes of the text. -/

namespace UnitRouting

open Outcome

/-- `null` and texts, which stand for names of fields and of operators. -/
def Value.isName : Value → Bool
  | .null | .text _ => true
  | _ => false

namespace Condition

/-- What an operator makes of a typed text. -/
def ofTyped (field operator typed : Text) : Condition :=
  match ValueShape.ofName operator with
  | .set => ⟨field, operator, none, typed.members, some typed⟩
  | .valueless => ⟨field, operator, none, [], some typed⟩
  | .single => ⟨field, operator, some typed, [], some typed⟩

variable {f o : Text} {typed : Text} {field operator raw : Value} {c : Condition}

@[simp]
theorem field_ofTyped : (ofTyped f o typed).field = f := by
  unfold ofTyped
  cases ValueShape.ofName o <;> rfl

@[simp]
theorem operator_ofTyped : (ofTyped f o typed).operator = o := by
  unfold ofTyped
  cases ValueShape.ofName o <;> rfl

@[simp]
theorem rawValue_ofTyped : (ofTyped f o typed).rawValue = typed := by
  unfold ofTyped
  cases ValueShape.ofName o <;> rfl

theorem shaped_text (f o typed : Text) : shaped f o (.text typed) = .ok (ofTyped f o typed) := by
  unfold shaped ofTyped
  cases ValueShape.ofName o <;> rfl

theorem sourced_ofTyped (f : Text) {o : Text} (stripped : o.strip = o) (typed : Text) :
    (ofTyped f o typed).Sourced := by
  have settled : Settles (Fault.OfInput True) Sourced (shaped f o (.text typed)) :=
    shaped_ofInput stripped f (.text typed)
  exact settled.of_ok (shaped_text f o typed)

theorem create_eq_ok : create field operator raw = .ok c ↔
    ∃ f o, fieldText field = .ok f ∧ operator.operatorText = .ok o ∧ shaped f o raw = .ok c := by
  simp only [create, bind_eq_ok]
  constructor
  · rintro ⟨f, named, o, chosen, made⟩
    exact ⟨f, o, named, chosen, made⟩
  · rintro ⟨f, o, named, chosen, made⟩
    exact ⟨f, named, o, chosen, made⟩

theorem create_typed_eq_ok : create field operator (.text typed) = .ok c ↔
    ∃ f o, fieldText field = .ok f ∧ operator.operatorText = .ok o ∧ ofTyped f o typed = c := by
  simp only [create_eq_ok, shaped_text, Except.ok.injEq]

theorem isOk_create_typed (field operator : Value) (typed : Text) :
    (create field operator (.text typed)).isOk = (field.isName && operator.isName) := by
  have accepted (f o : Text) : (shaped f o (.text typed)).isOk = true := by
    rw [shaped_text]
    rfl
  cases field with
  | null | text => cases operator <;> first | exact accepted _ _ | rfl
  | _ => cases operator <;> rfl

theorem create_shown (named : fieldText field = .ok f) (chosen : operator.operatorText = .ok o)
    (f' o' : Option Value) (raw : Value) :
    create (f'.getD (.text f)) (o'.getD (.text o)) raw =
      create (f'.getD field) (o'.getD operator) raw := by
  have stripped : o.strip = o := Value.strip_of_operatorText chosen
  have sameField : fieldText (f'.getD (.text f)) = fieldText (f'.getD field) := by
    cases f' with
    | none => exact named.symm
    | some v => rfl
  have sameOperator : (o'.getD (.text o)).operatorText = (o'.getD operator).operatorText := by
    cases o' with
    | none => rw [Option.getD_none, Option.getD_none, chosen, Value.operatorText, stripped]
    | some v => rfl
  simp only [create, sameField, sameOperator]

/-- The condition after an edit; an edit that is refused does nothing. -/
def edited (c : Condition) (changes : Fields) : Condition :=
  match c.withChanges changes with
  | .ok changed => changed
  | .error _ => c

end Condition

/-- The field and the operator that an author chose. -/
structure Choice where
  field : Value
  operator : Value

namespace Choice

/-- The choice with what the changes say of it. -/
def updated (choice : Choice) (changes : Fields) : Choice :=
  ⟨(changes.get? "field").getD choice.field, (changes.get? "operator").getD choice.operator⟩

/-- The choice after an edit that may name nothing else, and only by names. -/
def edited (choice : Choice) (changes : Fields) : Choice :=
  let next := choice.updated changes
  if (changes.unknown Condition.attributes).isEmpty && next.field.isName && next.operator.isName then
    next
  else choice

/-- The condition is what the choice makes of a typed text. -/
def Makes (choice : Choice) (typed : Text) (c : Condition) : Prop :=
  Condition.create choice.field choice.operator (.text typed) = .ok c

variable {choice : Choice} {typed : Text} {c : Condition} {changes : Fields}

theorem Makes.rawValue (makes : choice.Makes typed c) : c.rawValue = typed := by
  obtain ⟨f, o, -, -, rfl⟩ := Condition.create_typed_eq_ok.mp makes
  exact Condition.rawValue_ofTyped

theorem Makes.withChanges (makes : choice.Makes typed c) (silent : changes.get? "value" = none) :
    c.withChanges changes =
      match changes.unknown Condition.attributes with
      | [] => Condition.create (choice.updated changes).field (choice.updated changes).operator
          (.text typed)
      | names => .error (.refused (.unknownConditionAttributes names)) := by
  obtain ⟨f, o, named, chosen, rfl⟩ := Condition.create_typed_eq_ok.mp makes
  simp only [Condition.withChanges, silent, Option.getD_none, Condition.field_ofTyped,
    Condition.operator_ofTyped, Condition.rawValue_ofTyped, Condition.create_shown named chosen]
  rfl

/-- One edit: if it is accepted it leads to the new choice, and if it is refused nothing changes. -/
theorem Makes.edited (makes : choice.Makes typed c) (silent : changes.get? "value" = none) :
    (choice.edited changes).Makes typed (c.edited changes) := by
  have changed := makes.withChanges silent
  unfold Choice.edited Condition.edited
  cases unknown : changes.unknown Condition.attributes with
  | cons name names =>
      rw [unknown] at changed
      simpa [changed] using makes
  | nil =>
      rw [unknown] at changed
      dsimp only at changed
      have accepted := Condition.isOk_create_typed (choice.updated changes).field
        (choice.updated changes).operator typed
      rw [← changed] at accepted
      cases made : c.withChanges changes with
      | ok d =>
          have names : true = _ := made ▸ accepted
          simp only [List.isEmpty_nil, Bool.true_and, ← names, if_true]
          exact changed.symm.trans made
      | error fault =>
          have names : false = _ := made ▸ accepted
          simp only [List.isEmpty_nil, Bool.true_and, ← names, Bool.false_eq_true, if_false]
          exact makes

theorem Makes.editedAll {edits : List Fields} (makes : choice.Makes typed c)
    (silent : ∀ changes ∈ edits, Fields.get? "value" changes = none) :
    (edits.foldl Choice.edited choice).Makes typed (edits.foldl Condition.edited c) := by
  induction edits generalizing choice c with
  | nil => exact makes
  | cons changes later ih =>
      apply ih (makes.edited (silent changes List.mem_cons_self))
      intro other member
      exact silent other (List.mem_cons_of_mem changes member)

end Choice

/-- After any edits that leave the text alone, the condition still shows the text as it was typed and
    is what the last choice of a field and an operator makes of it; and made again of the field, the
    operator and the value that it shows, it is the same condition. -/
theorem typed_text_survives_edits {field operator : Value} {typed : Text} {c : Condition}
    (made : Condition.create field operator (.text typed) = .ok c) {edits : List Fields}
    (silent : ∀ changes ∈ edits, Fields.get? "value" changes = none) :
    let choice := edits.foldl Choice.edited ⟨field, operator⟩
    let d := edits.foldl Condition.edited c
    d.rawValue = typed ∧
      Condition.create choice.field choice.operator (.text typed) = .ok d ∧
      ∃ shown f o v, Rule.conditionValue d = .object shown ∧ Fields.get? "field" shown = some f ∧
        Fields.get? "operator" shown = some o ∧ Fields.get? "value" shown = some v ∧
        Condition.create f o v = .ok d := by
  intro choice d
  have start : Choice.Makes ⟨field, operator⟩ typed c := made
  have makes : choice.Makes typed d := start.editedAll silent
  obtain ⟨f, o, -, chosen, same⟩ := Condition.create_typed_eq_ok.mp makes
  have stripped : o.strip = o := Value.strip_of_operatorText chosen
  have again : Condition.create (.text d.field) (.text d.operator) (.text d.rawValue) = .ok d := by
    apply Condition.create_typed_eq_ok.mpr
    rw [← same]
    simp [Condition.fieldText, Value.operatorText, stripped]
  exact ⟨makes.rawValue, makes, _, _, _, _, rfl, rfl, rfl, rfl, again⟩

/-- A set becomes a comparison, then loses its value, and becomes another set after an operator that
    is none was refused. -/
theorem members_survive_other_operators :
    let edits : List Fields := [[("operator", .text "EQUALS")],
      [("operator", .text "IS_NULL_OR_EMPTY"), ("field", .null)], [("operator", .int 3)],
      [("field", .text "queue")], [("operator", .text " NOT_IN ")]]
    ∃ c, Condition.create (.text "tags") (.text "IN") (.text "a, b") = .ok c ∧
      (∀ changes ∈ edits, Fields.get? "value" changes = none) ∧
      (edits.foldl Condition.edited c).rawValue = "a, b" ∧
      edits.foldl Condition.edited c = ⟨"queue", "NOT_IN", none, ["a", "b"], some "a, b"⟩ := by
  intro edits
  have made : Condition.create (.text "tags") (.text "IN") (.text "a, b") =
      .ok ⟨"tags", "IN", none, ["a", "b"], some "a, b"⟩ := rfl
  have silent : ∀ changes ∈ edits, Fields.get? "value" changes = none := by decide
  have survives := typed_text_survives_edits made silent
  exact ⟨_, made, silent, survives.1, by decide +kernel⟩

end UnitRouting

import UnitRouting.Condition.Basic
import UnitRouting.Number.Numeral
import UnitRouting.Value.Display

/-! # Rules

A rule sends every context that meets its conditions to a unit. `Rule.create` makes one from
loosely typed input; a rule may be a draft, without a unit or without conditions. -/

namespace UnitRouting

/-- How the conditions of a rule are combined. -/
inductive Combinator where
  | all
  | any
  deriving DecidableEq

namespace Combinator

def name : Combinator → Text
  | all => "AND"
  | any => "OR"

/-- The combinator of a name. -/
def ofName? (t : Text) : Option Combinator :=
  if t = all.name then some all else if t = any.name then some any else none

/-- Combines results. -/
def combine (combinator : Combinator) (results : List Bool) : Bool :=
  match combinator with
  | .all => results.all id
  | .any => results.any id

theorem combine_singleton (combinator : Combinator) (b : Bool) : combinator.combine [b] = b := by
  cases combinator <;> simp [combine]

end Combinator

/-- A routing rule. -/
structure Rule where
  id : Text
  name : Text
  priority : Int
  unitId : Text
  conditions : List Condition
  combinator : Combinator
  deriving DecidableEq

/-- The conditions that are handed over for a rule. -/
inductive ConditionsInput where
  /-- A list, in which `none` stands for what is not a condition. -/
  | entries (entries : List (Option Condition))
  /-- Something that is not a list of any kind. -/
  | notList

/-- The conditions that a plain value amounts to: texts and objects are lists too, of things that are
    not conditions. -/
def ConditionsInput.ofValue : Value → ConditionsInput
  | .text t => .entries (t.map fun _ => none)
  | .list items => .entries (items.map fun _ => none)
  | .object fields => .entries (fields.map fun _ => none)
  | .undefined | .null | .bool _ | .int _ | .float _ => .notList

/-- Everything that a rule is made of, as it is handed over. -/
structure RuleInput where
  id : Value
  name : Value
  priority : Value
  unitId : Value
  combinator : Value
  conditions : ConditionsInput

/-- What is left out of a rule. -/
def RuleInput.blank (id : Value) : RuleInput where
  id := id
  name := .text []
  priority := .int 0
  unitId := .text []
  combinator := .text Combinator.all.name
  conditions := .entries []

/-- Attributes to change, and the names that are no attributes. -/
structure RuleEdit where
  name : Option Value
  priority : Option Value
  unitId : Option Value
  combinator : Option Value
  conditions : Option ConditionsInput
  unknown : List Text

namespace RuleEdit

/-- The attributes that are plain values. -/
def attributes : List Text := ["name", "priority", "unit_id", "condition_operator"]

/-- The edit that fields and conditions amount to. -/
def ofFields (fields : Fields) (conditions : Option ConditionsInput) : RuleEdit where
  name := fields.get? "name"
  priority := fields.get? "priority"
  unitId := fields.get? "unit_id"
  combinator := fields.get? "condition_operator"
  conditions := conditions
  unknown := fields.unknown attributes

/-- The edit of the conditions alone. -/
def ofConditions (conditions : List Condition) : RuleEdit where
  name := none
  priority := none
  unitId := none
  combinator := none
  conditions := some (.entries (conditions.map some))
  unknown := []

/-- The input with what the edit gives in place of what it had. -/
def applyTo (edit : RuleEdit) (input : RuleInput) : RuleInput where
  id := input.id
  name := edit.name.getD input.name
  priority := edit.priority.getD input.priority
  unitId := edit.unitId.getD input.unitId
  combinator := edit.combinator.getD input.combinator
  conditions := edit.conditions.getD input.conditions

end RuleEdit

/-- The integer that a value stands for: an integer, a whole floating point number or a numeral. -/
def Value.priority? : Value → Option Int
  | .int n => some n
  | .float x => x.toInt?
  | .text t => Numeral.int? t.strip
  | _ => none

/-- The integer priority of a value. -/
def Value.priority (value : Value) : Except Fault Int :=
  match value.priority? with
  | some n => .ok n
  | none =>
    match value with
    | .bool _ => .error (.refused (.priorityNotInteger none))
    | _ => do
      let shown ← value.shown
      .error (.refused (.priorityNotInteger (some shown)))

/-- The combinator of a value; a blank name means that all conditions have to hold. -/
def Value.combinator (value : Value) : Except Fault Combinator := do
  let name ← value.operatorText
  let upper := name.map fun c => if c.isBetween 'a' 'z' then CodePoint.ofNat (c.val - 32) else c
  if upper.isEmpty then return .all
  match Combinator.ofName? upper with
  | some combinator => return combinator
  | none =>
    let shown ← value.shown
    .error (.refused (.combinatorUnknown shown))

/-- The text of a value in a name or unit id; `null` is the empty text. -/
def Value.labelText : Value → Except Fault Text
  | .null => .ok []
  | value => value.display

/-- The conditions handed over, if all of them are conditions. -/
def ConditionsInput.conditions : ConditionsInput → Except Fault (List Condition)
  | .notList => .error .wrongKind
  | .entries given =>
    match given.mapM id with
    | some conditions => .ok conditions
    | none => .error (.refused .conditionsMalformed)

namespace Rule

/-- The id of a rule has to be a text that is not empty. -/
def idText : Value → Except Fault Text
  | .text (c :: rest) => .ok (c :: rest)
  | _ => .error (.refused .ruleIdMissing)

/-- A rule from authored input. -/
def create (input : RuleInput) : Except Fault Rule := do
  let id ← idText input.id
  let priority ← input.priority.priority
  let combinator ← input.combinator.combinator
  let unitId ← input.unitId.labelText
  let name ← input.name.labelText
  let conditions ← input.conditions.conditions
  return ⟨id, name, priority, unitId, conditions, combinator⟩

/-- The input that makes the rule again. -/
def toInput (r : Rule) : RuleInput where
  id := .text r.id
  name := .text r.name
  priority := .int r.priority
  unitId := .text r.unitId
  combinator := .text r.combinator.name
  conditions := .entries (r.conditions.map some)

/-- The rule made again with some attributes changed. -/
def withChanges (r : Rule) (edit : RuleEdit) : Except Fault Rule :=
  match edit.unknown with
  | [] => create (edit.applyTo r.toInput)
  | names => .error (.refused (.unknownRuleAttributes names))

/-- The conditions that can hold at all. -/
def validConditions (r : Rule) : List Condition := r.conditions.filter Condition.isValid

/-- The rule has a unit and a condition that can hold. -/
def isEvaluable (r : Rule) : Bool := !r.unitId.isEmpty && !r.validConditions.isEmpty

/-- A condition as authors see it. -/
def conditionValue (c : Condition) : Value :=
  .object [("field", .text c.field), ("operator", .text c.operator), ("value", .text c.rawValue)]

/-- The rule as authors see it. -/
def toValue (r : Rule) : Value :=
  .object [("id", .text r.id), ("name", .text r.name), ("priority", .int r.priority),
    ("unit_id", .text r.unitId), ("condition_operator", .text r.combinator.name),
    ("conditions", .list (r.conditions.map conditionValue))]

end Rule

end UnitRouting

import UnitRouting.Condition.Operator
import UnitRouting.Text.Blank
import UnitRouting.Value.Loose

/-! # Conditions

A condition compares one field with authored text. `Condition.create` makes one from loosely typed
input and gives the value the shape that the operator takes. The text as it was typed stays with
the condition, so that another operator can give it another shape later. -/

namespace UnitRouting

/-- One comparison of a field. -/
structure Condition where
  field : Text
  /-- The name of an operator, known or not. -/
  operator : Text
  /-- The value of an operator that takes one. -/
  value : Option Text
  /-- The members of an operator that takes a set. -/
  values : List Text
  /-- The value as it was typed, if the condition was made from typed input. -/
  source : Option Text
  deriving DecidableEq

/-- The text of a scalar; lists and objects are refused. -/
def Value.scalarText (what : Text) (value : Value) : Except Fault Text :=
  match value with
  | .undefined | .list _ | .object _ => .error (.refused (.notScalar what value.kindName))
  | _ => .ok value.looseText

/-- The stripped name of an operator; `null` is no name. -/
def Value.operatorText : Value → Except Fault Text
  | .null => .ok []
  | .text t => .ok t.strip
  | _ => .error (.refused .operatorNotText)

/-- The members of a comma-separated value; what is not given has none, and what is given has to be
    a text. -/
def Value.members (value : Value) : Except Fault (List Text) :=
  if value.isGiven then
    match value with
    | .text t => .ok t.members
    | _ => .error .notText
  else .ok []

namespace Condition

/-- What messages call a member of a set. -/
def memberRole : Text := "set member"

/-- What messages call a value. -/
def valueRole : Text := "condition value"

/-- A condition with members, which are given as a list or as a comma-separated text. -/
def createSet (field operator : Text) (raw : Value) : Except Fault Condition :=
  match raw with
  | .list items => do
    let texts ← items.mapM (Value.scalarText memberRole)
    let members := texts.map Text.strip
    return ⟨field, operator, none, members, some (Text.join ", " members)⟩
  | .null => .ok ⟨field, operator, none, [], some []⟩
  | _ => do
    let source ← raw.scalarText valueRole
    return ⟨field, operator, none, source.members, some source⟩

/-- A condition without a value; a text that is given is kept for later. -/
def createValueless (field operator : Text) (raw : Value) : Condition :=
  let source : Text := match raw with
    | .text t => t
    | _ => []
  ⟨field, operator, none, [], some source⟩

/-- A condition with a single value. -/
def createSingle (field operator : Text) (raw : Value) : Except Fault Condition :=
  match raw with
  | .list _ => .error (.refused (.listForSingle operator))
  | .null => .ok ⟨field, operator, none, [], some []⟩
  | _ => do
    let value ← raw.scalarText valueRole
    return ⟨field, operator, some value, [], some value⟩

/-- A condition whose value has the shape that the operator takes. -/
def shaped (field operator : Text) (raw : Value) : Except Fault Condition :=
  match ValueShape.ofName operator with
  | .set => createSet field operator raw
  | .valueless => .ok (createValueless field operator raw)
  | .single => createSingle field operator raw

/-- The name of a field; `null` is no name. -/
def fieldText : Value → Except Fault Text
  | .null => .ok []
  | .text t => .ok t
  | _ => .error (.refused .fieldNotText)

/-- A condition from authored input. -/
def create (field operator raw : Value) : Except Fault Condition := do
  let field ← fieldText field
  let operator ← operator.operatorText
  shaped field operator raw

/-- The condition can hold at all: it names a field and an operator. -/
def isValid (c : Condition) : Bool := !c.field.strip.isEmpty && !c.operator.isEmpty

/-- The value as authors see and edit it. -/
def rawValue (c : Condition) : Text :=
  match c.source with
  | some source => source
  | none =>
    match ValueShape.ofName c.operator with
    | .set => Text.join ", " c.values
    | _ => c.value.getD []

/-- The names of what an author can change. -/
def attributes : List Text := ["field", "operator", "value"]

/-- The condition made again with some attributes changed. -/
def withChanges (c : Condition) (changes : Fields) : Except Fault Condition :=
  match changes.unknown attributes with
  | [] =>
    create ((changes.get? "field").getD (.text c.field))
      ((changes.get? "operator").getD (.text c.operator))
      ((changes.get? "value").getD (.text c.rawValue))
  | names => .error (.refused (.unknownConditionAttributes names))

end Condition

end UnitRouting

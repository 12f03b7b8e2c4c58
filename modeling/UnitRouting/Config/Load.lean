import UnitRouting.Json.Reader
import UnitRouting.Rule.RuleSet
import UnitRouting.Value.Display

/-! # Loading configurations

Loading is liberal: ids, names, units and settings may be any values, which stand for their texts,
and what is missing, `null`, zero or empty is filled in. A condition without a field or an operator
is left out. A rule that cannot be loaded is reported with its quoted id. -/

namespace UnitRouting

namespace Fields

/-- The value of a field, `null` if there is none. -/
def getOrNull (name : Text) (fields : Fields) : Value := (fields.get? name).getD .null

/-- The text of a field, or another text if the field is not given. -/
def textOr (name fallback : Text) (fields : Fields) : Except Fault Text :=
  let value := fields.getOrNull name
  if value.isGiven then value.display else .ok fallback

end Fields

/-- A fault inside a rule, reported with the rule. -/
def Fault.inRule (label : Text) : Fault → Fault
  | .refused cause => .config (.rule label (.refused cause))
  | fault => fault

/-- The fault of a rule with a defect. -/
def RuleDefect.fault (label : Text) (defect : RuleDefect) : Fault := .config (.rule label defect)

/-- The result with its fault reported with a rule. -/
def inRule {α : Type} (label : Text) (result : Except Fault α) : Except Fault α :=
  result.mapError (Fault.inRule label)

namespace Condition

/-- Loads a condition; one without a field or an operator is left out. -/
def load? (label : Text) : Value → Except Fault (Option Condition)
  | .object fields =>
    let field := Fields.getOrNull "field" fields
    let operator := Fields.getOrNull "operator" fields
    if field.isGiven && operator.isGiven then
      let raw := (Fields.get? "values" fields).getD (Fields.getOrNull "value" fields)
      inRule label ((Condition.create field operator raw).map some)
    else .ok none
  | _ => .error (RuleDefect.conditionNotObject.fault label)

/-- Loads the conditions of a list, leaving out those without a field or an operator. -/
def loadAll (label : Text) (clauses : List Value) : Except Fault (List Condition) := do
  let loaded ← clauses.mapM (load? label)
  return loaded.filterMap id

/-- Loads the conditions of a rule and the name of their combinator. -/
def loadConditions (label : Text) : Value → Except Fault (List Condition × Text)
  | .null => .ok ([], Combinator.all.name)
  | .object fields =>
    match Fields.get? "clauses" fields with
    | some (.list clauses) => do
      let conditions ← loadAll label clauses
      let operator ← Fields.textOr "operator" Combinator.all.name fields
      return (conditions, operator)
    | some _ => .error (RuleDefect.clausesNotList.fault label)
    | none => do
      let condition ← load? label (.object fields)
      return (condition.toList, Combinator.all.name)
  | _ => .error (RuleDefect.conditionsNotObject.fault label)

end Condition

namespace Rule

/-- The id of the rule at a position, counted from one, if it gives none itself. -/
def fallbackId (index : Nat) : Text := "rule-" ++ Text.ofNat index

/-- The fields of the result of a rule. -/
def resultFields (label : Text) (result : Value) : Except Fault Fields :=
  if result.isGiven then
    match result with
    | .object fields => .ok fields
    | _ => .error (RuleDefect.resultNotObject.fault label)
  else .ok []

/-- Loads the rule at a position, counted from one. -/
def load (index : Nat) : Value → Except Fault Rule
  | .object fields => do
    let id ← Fields.textOr "id" (fallbackId index) fields
    let label := id.quoted
    let (conditions, operator) ←
      Condition.loadConditions label (Fields.getOrNull "conditions" fields)
    let result ← resultFields label (Fields.getOrNull "result" fields)
    let name ← Fields.textOr "name" id fields
    let unitId ← Fields.textOr "unit_id" [] result
    inRule label (Rule.create
      { id := .text id
        name := .text name
        priority := (Fields.get? "priority" fields).getD (.int 0)
        unitId := .text unitId
        combinator := .text operator
        conditions := .entries (conditions.map some) })
  | _ => .error (.config (.ruleNotObject index))

/-- Loads the rules of a list, whose first one has a position. -/
def loadFrom (index : Nat) : List Value → Except Fault (List Rule)
  | [] => .ok []
  | raw :: rest => do
    let rule ← load index raw
    let rules ← loadFrom (index + 1) rest
    return rule :: rules

end Rule

/-- A refusal of the rules together is a defect of the configuration. -/
def Fault.inConfig : Fault → Fault
  | .refused cause => .config (.refused cause)
  | fault => fault

/-- A syntax error in a configuration is a defect of it. -/
def Fault.inConfigText : Fault → Fault
  | .json error position => .config (.malformed error position)
  | fault => fault

namespace RuleSet

/-- Loads what stands under the root key of a configuration. -/
def loadBody (body : Fields) : Except Fault RuleSet :=
  match (body.get? "rules").getD (.list []) with
  | .list raws => do
    let rules ← Rule.loadFrom 1 raws
    let version ← body.textOr "version" defaultVersion
    let defaultUnitId ← body.textOr "default_unit_id" fallbackUnitId
    (create version defaultUnitId rules).mapError Fault.inConfig
  | _ => .error (.config .rulesNotList)

/-- Loads a configuration. -/
def load : Value → Except Fault RuleSet
  | .object fields =>
    match Fields.get? configRootKey fields with
    | some (.object body) => loadBody body
    | _ => .error (.config .rootMissing)
  | _ => .error (.config .notObject)

/-- Loads a configuration from its text. -/
def parse (t : Text) : Except Fault RuleSet := do
  let value ← (Json.read t).mapError Fault.inConfigText
  load value

end RuleSet

/-- The verdict on the syntax of a configuration text: its message if it is no JSON document. -/
def configSyntaxError? (t : Text) : Except Fault (Option Text) :=
  match Json.read t with
  | .ok _ => .ok none
  | .error (.json error position) => .ok (some (error.locatedMessage position))
  | .error fault => .error fault

/-- The verdict on a configuration that may be any value; what is no text cannot be read. -/
def Value.configVerdict : Value → Except Fault (Option Text)
  | .text t => configSyntaxError? t
  | v => .ok (some ("the JSON object must be str, bytes or bytearray, not " ++ v.kindName))

end UnitRouting

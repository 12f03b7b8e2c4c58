import UnitRouting.Config.Build
import UnitRouting.Config.Load
import UnitRouting.Discovery
import UnitRouting.Number.Numeral
import UnitRouting.Repository
import UnitRouting.Service.Body
import UnitRouting.Service.Resource

/-! # Handling requests

What each method does to each resource. A request that is carried out gives a document; one that
meets a problem ends there, and the repository stays as the work before has left it. -/

namespace UnitRouting

/-- What a request that is carried out is answered with. -/
structure Success where
  status : Nat
  document : Value

/-- Work on a repository that a request asks for. -/
abbrev Handling := EStateM Problem Repository

namespace Service

open MonadExcept (ofExcept)

/-- The result with its fault as a problem. -/
def attempt {α : Type} (result : Except Fault α) : Except Problem α := result.mapError .failed

/-- Carries out a command, whose fault is a problem. -/
def execute (command : Command) : Handling Reply := command.authoring.adaptExcept .failed

/-- Carries out a command whose reply is a rule, and shows the rule. -/
def author (status : Nat) (command : Command) : Handling Success := do
  match ← execute command with
  | .rule rule => return ⟨status, rule.toValue⟩
  | _ => return ⟨status, .null⟩

/-- The answer to a question. -/
def tell (document : Value) : Handling Success := return ⟨200, document⟩

/-- Changes one of the settings if it is given. -/
def changeSetting (fields : Fields) (name : Text) (command : Value → Command) : Handling PUnit :=
  match fields.get? name with
  | some value => discard (execute (command value))
  | none => pure ⟨⟩

/-- Changes what of the settings is given, one setting after the other. -/
def changeSettings (fields : Fields) : Handling PUnit := do
  changeSetting fields "default_unit_id" .setDefaultUnitId
  changeSetting fields "version" .setVersion

/-- The settings as clients see them. -/
def settingsDocument (rs : RuleSet) : Value :=
  .object [("version", .text rs.version), ("default_unit_id", .text rs.defaultUnitId)]

/-- The value is a direction in which rules move: one down or one up. -/
def isDirection : Value → Bool
  | .int n => n == 1 || n == -1
  | .bool b => b
  | .float x => x.toInt? == some 1 || x.toInt? == some (-1)
  | _ => false

/-- The index of a condition in a path. -/
def conditionIndex (numeral : Text) : Except Problem Value :=
  match Numeral.int? numeral with
  | some n => .ok (.int n)
  | none => .error .numeralTooLong

/-- Replaces the configuration by the one in a body. -/
def replaceConfig (body : Bytes) : Handling Success := do
  let rs ← ofExcept (attempt (RuleSet.parse (bodyText body)))
  discard (execute (.replaceAll rs))
  tell (← get).ruleSet.build

/-- Checks the syntax of the configuration in a body. -/
def checkConfig (body : Bytes) : Handling Success := do
  let error ← ofExcept (attempt (configSyntaxError? (bodyText body)))
  tell (.object [("valid", .bool error.isNone), ("error", Evaluation.optionalText error)])

/-- Evaluates the context in a body. -/
def evaluate (body : Bytes) : Handling Success := do
  let fields ← ofExcept (bodyFields body)
  match (fields.get? "context").getD (.object []) with
  | .object context => do
    let result ← ofExcept (attempt ((← get).engine.evaluate context))
    tell (result.toValue (fields.getOrNull "include_trace").isGiven)
  | _ => throw .contextNotObject

/-- Describes the fields of the sample in a body. -/
def describe (body : Bytes) : Handling Success := do
  let fields ← ofExcept (bodyFields body)
  match (fields.get? "sample").getD (.object []) with
  | .object sample =>
    tell (.object [("fields",
      .list ((discoverFields (.object sample)).map FieldDescriptor.toValue))])
  | _ => throw .sampleNotObject

/-- Moves a rule in the direction in a body. -/
def move (id : Text) (body : Bytes) : Handling Success := do
  let fields ← ofExcept (bodyFields body)
  let direction := fields.getOrNull "direction"
  if isDirection direction then
    discard (execute (.moveRule (.text id) direction))
    tell (.object [("order", .list ((← get).ruleSet.rules.map fun rule => .text rule.id))])
  else throw .directionUnknown

/-- Carries out what a method asks of a resource. -/
def handle (body : Bytes) : Resource → Method → Handling Success
  | .health, .get => tell (.object [("status", .text "ok"), ("app", .text "unit-mapping")])
  | .config, .get => do tell (← get).ruleSet.build
  | .config, .put => replaceConfig body
  | .configCheck, .post => checkConfig body
  | .settings, .put => do
    let fields ← ofExcept (supportedFields ["default_unit_id", "version"] body)
    changeSettings fields
    tell (settingsDocument (← get).ruleSet)
  | .evaluation, .post => evaluate body
  | .fields, .post => describe body
  | .rules, .get => do
    tell (.object [("rules", .list ((← get).ruleSet.rules.map Rule.toValue))])
  | .rules, .post => do
    let fields ← ofExcept (supportedFields RuleEdit.attributes body)
    author 201 (.addRule (.ofFields fields none))
  | .rule id, .put => do
    let fields ← ofExcept (supportedFields RuleEdit.attributes body)
    author 200 (.updateRule (.text id) (.ofFields fields none))
  | .rule id, .delete => do
    discard (execute (.deleteRule (.text id)))
    tell (.object [("deleted", .text id)])
  | .ruleMove id, .post => move id body
  | .conditions id, .post => do
    let fields ← ofExcept (supportedFields Condition.attributes body)
    author 201 (.appendCondition (.text id) fields)
  | .condition id numeral, .put => do
    let index ← ofExcept (conditionIndex numeral)
    let fields ← ofExcept (supportedFields Condition.attributes body)
    author 200 (.updateCondition (.text id) index fields)
  | .condition id numeral, .delete => do
    let index ← ofExcept (conditionIndex numeral)
    author 200 (.removeCondition (.text id) index)
  | .asset, .get => throw .missing
  | _, _ => throw .methodNotAllowed

end Service

end UnitRouting

import UnitRouting.Json.Writer
import UnitRouting.Rule.RuleSet

/-! # Building configurations

A configuration is the interchange form of a rule set. It holds only what can match: rules with a
unit and a valid condition, and their valid conditions. A condition that stands alone is written
without its combinator. -/

namespace UnitRouting

/-- The interchange form of a condition. -/
def Condition.clause (c : Condition) : Value :=
  let head : Fields := [("field", .text c.field), ("operator", .text c.operator)]
  .object (head ++
    match ValueShape.ofName c.operator with
    | .valueless => []
    | .set => [("values", .list (c.values.map .text))]
    | .single => [("value", match c.value with
      | some t => .text t
      | none => .null)])

/-- The interchange form of a condition, if it is valid. -/
def Condition.build? (c : Condition) : Option Value :=
  if c.isValid then some c.clause else none

namespace Rule

/-- The interchange form of the conditions, if any is valid. -/
def buildConditions? (r : Rule) : Option Value :=
  match r.conditions.filterMap Condition.build? with
  | [] => none
  | [clause] => some clause
  | clauses =>
    some (.object [("operator", .text r.combinator.name), ("clauses", .list clauses)])

/-- The interchange form of the rule, if it can match. A rule without a name is named by its id. -/
def build? (r : Rule) : Option Value :=
  if r.unitId.isEmpty then none
  else r.buildConditions?.map fun conditions =>
    .object [("id", .text r.id), ("name", .text (if r.name.isEmpty then r.id else r.name)),
      ("priority", .int r.priority), ("conditions", conditions),
      ("result", .object [("unit_id", .text r.unitId)])]

end Rule

namespace RuleSet

/-- The configuration of a rule set. -/
def build (rs : RuleSet) : Value :=
  .object [(configRootKey, .object [("version", .text rs.version),
    ("default_unit_id", .text rs.defaultUnitId),
    ("rules", .list (rs.rules.filterMap Rule.build?))])]

/-- The priorities that a configuration holds are within the digit limit. -/
def prioritiesFit (rs : RuleSet) : Bool :=
  rs.rules.all fun rule =>
    rule.build?.isNone || decide (rule.priority.natAbs < numeralBound)

/-- The text of the configuration of a rule set. -/
def configText (rs : RuleSet) : Except Fault Text :=
  if rs.prioritiesFit then .ok (Json.Style.readable.write rs.build) else .error .numeralTooLong

end RuleSet

end UnitRouting

import UnitRouting.Condition.Evaluate
import UnitRouting.Rule.RuleSet

/-! # Evaluating rule sets

The engine considers the rules from the highest priority down, rules of one priority in their
authored order, and stops at the first one that matches. What it has found out about each rule
that it considered is the trace of the evaluation. -/

namespace UnitRouting

/-- What a condition said. -/
structure ConditionResult where
  field : Text
  operator : Text
  result : Bool
  deriving DecidableEq

/-- What became of a rule that was considered. -/
inductive Verdict where
  | missingUnitId
  | noConditions
  | noValidConditions
  /-- All valid conditions were evaluated. -/
  | tested (results : List ConditionResult) (matched : Bool)
  deriving DecidableEq

/-- The part of a trace about one rule. -/
structure TraceEntry where
  ruleId : Text
  name : Text
  priority : Int
  verdict : Verdict
  deriving DecidableEq

/-- The outcome of an evaluation: the unit, the rule that matched, if one did, and the rules that
    were considered. -/
structure Evaluation where
  unitId : Text
  winner : Option Rule
  trace : List TraceEntry

/-- What the condition says of a context, with the condition it is about. -/
def Condition.resultIn (c : Condition) (context : Fields) : Except Fault ConditionResult :=
  (c.evaluate context).map fun result => ⟨c.field, c.operator, result⟩

namespace Rule

/-- What each valid condition says of a context, in order. -/
def conditionResults (r : Rule) (context : Fields) : Except Fault (List ConditionResult) :=
  r.validConditions.mapM (·.resultIn context)

/-- The rule matches a context, whether or not it has a unit. -/
def isMatch (r : Rule) (context : Fields) : Except Fault Bool :=
  if r.validConditions.isEmpty then .ok false
  else do
    let results ← r.validConditions.mapM (·.evaluate context)
    return r.combinator.combine results

/-- What becomes of the rule when it is considered. -/
def consider (r : Rule) (context : Fields) : Except Fault Verdict :=
  if r.unitId.isEmpty then .ok .missingUnitId
  else if r.conditions.isEmpty then .ok .noConditions
  else if r.validConditions.isEmpty then .ok .noValidConditions
  else do
    let results ← r.conditionResults context
    return .tested results (r.combinator.combine (results.map (·.result)))

/-- The warnings that considering the rule gives. -/
def warnings (r : Rule) : List Warning :=
  if r.unitId.isEmpty then [] else r.validConditions.flatMap Condition.warnings

end Rule

namespace Verdict

/-- The rule matched. -/
def isMatch : Verdict → Bool
  | .tested _ matched => matched
  | _ => false

end Verdict

/-- Rules from the highest priority down; rules of one priority keep their order. -/
def Rule.inOrder (rules : List Rule) : List Rule :=
  rules.mergeSort fun a b => decide (b.priority ≤ a.priority)

/-- The rules in the order in which they are considered. -/
def RuleSet.ordered (rs : RuleSet) : List Rule := Rule.inOrder rs.rules

/-- A rule set with its rules in the order in which they are considered. -/
structure Engine where
  ruleSet : RuleSet
  ordered : List Rule

namespace Engine

def ofRuleSet (rs : RuleSet) : Engine := ⟨rs, rs.ordered⟩

/-- Considers rules one after the other until one matches: that one, and the trace. -/
def firstMatch (context : Fields) : List Rule → Except Fault (Option Rule × List TraceEntry)
  | [] => .ok (none, [])
  | rule :: rest => do
    let verdict ← rule.consider context
    let entry : TraceEntry := ⟨rule.id, rule.name, rule.priority, verdict⟩
    if verdict.isMatch then return (some rule, [entry])
    else
      let (winner, trace) ← firstMatch context rest
      return (winner, entry :: trace)

/-- Decides which unit a context goes to. -/
def evaluate (engine : Engine) (context : Fields) : Except Fault Evaluation := do
  let (winner, trace) ← firstMatch context engine.ordered
  match winner with
  | some rule => return ⟨rule.unitId, some rule, trace⟩
  | none => return ⟨engine.ruleSet.defaultUnitId, none, trace⟩

/-- The warnings of the rules that an evaluation considers. -/
def warningsFrom (context : Fields) : List Rule → List Warning
  | [] => []
  | rule :: rest =>
    rule.warnings ++
      match rule.consider context with
      | .ok verdict => if verdict.isMatch then [] else warningsFrom context rest
      | .error _ => []

/-- The warnings that an evaluation gives, in order. -/
def warnings (engine : Engine) (context : Fields) : List Warning :=
  warningsFrom context engine.ordered

end Engine

namespace Evaluation

/-- The id of the rule that matched. -/
def matchedRuleId (e : Evaluation) : Option Text := e.winner.map (·.id)

/-- The name of the rule that matched. -/
def matchedRuleName (e : Evaluation) : Option Text := e.winner.map (·.name)

/-- No rule matched. -/
def usedDefault (e : Evaluation) : Bool := e.matchedRuleId.isNone

/-- A text, or `null`. -/
def optionalText : Option Text → Value
  | some t => .text t
  | none => .null

/-- The status and the reason of a verdict, by name. -/
def statusAndReason : Verdict → Text × Option Text
  | .missingUnitId => ("skipped", some "missing_unit_id")
  | .noConditions => ("skipped", some "no_conditions")
  | .noValidConditions => ("no_match", some "no_valid_conditions")
  | .tested _ true => ("matched", none)
  | .tested _ false => ("no_match", none)

def resultValue (r : ConditionResult) : Value :=
  .object [("field", .text r.field), ("operator", .text r.operator), ("result", .bool r.result)]

def resultsOf : Verdict → List ConditionResult
  | .tested results _ => results
  | _ => []

def entryValue (entry : TraceEntry) : Value :=
  .object [("rule_id", .text entry.ruleId), ("name", .text entry.name),
    ("priority", .int entry.priority),
    ("status", .text (statusAndReason entry.verdict).1),
    ("reason", optionalText (statusAndReason entry.verdict).2),
    ("conditions", .list ((resultsOf entry.verdict).map resultValue))]

/-- The outcome as clients see it, with or without the trace. -/
def toValue (e : Evaluation) (includeTrace : Bool) : Value :=
  let trace : Fields := if includeTrace then [("trace", .list (e.trace.map entryValue))] else []
  let outcome : Fields := [("unit_id", .text e.unitId),
    ("matched_rule_id", optionalText e.matchedRuleId),
    ("matched_rule_name", optionalText e.matchedRuleName)]
  .object (outcome ++ trace)

end Evaluation

end UnitRouting

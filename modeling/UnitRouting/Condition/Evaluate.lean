import UnitRouting.Condition.Basic
import UnitRouting.Pattern.Matcher
import UnitRouting.Pattern.Parser
import UnitRouting.Value.Lookup

/-! # Evaluating conditions

What a condition says of a context. An unknown operator, a numeral that is none and a malformed
pattern make it false; only numbers beyond all bounds are faults. -/

namespace UnitRouting

/-- A sign of trouble that does not stop an evaluation. -/
inductive Warning where
  /-- The text of a pattern condition is not a pattern. -/
  | invalidPattern
  deriving DecidableEq

def Warning.message : Warning → Text
  | .invalidPattern => "invalid_regex_pattern"

/-- The fault of a pattern that cannot even be called malformed; a malformed one has none. -/
def Pattern.Error.fault? : Pattern.Error → Option Fault
  | .malformed => none
  | .countTooLarge => some .tooLarge
  | .countTooLong => some .numeralTooLong
  | .kindConflict => some .patternConflict

namespace Condition

/-- What the field is compared with: the value, or `undefined` if there is none. -/
def expected (c : Condition) : Value :=
  match c.value with
  | some t => .text t
  | none => .undefined

/-- The order of two loose numbers; NaN has no place in it. -/
def numberTest (test : Double → Double → Bool) (actual expected : Value) : Except Fault Bool := do
  let left ← actual.looseNumber
  let right ← expected.looseNumber
  return test left right

/-- The text of a pattern condition; without a value it matches everything. -/
def patternText (c : Condition) : Text := c.value.getD []

/-- The pattern of a condition matches some part of a text. -/
def patternTest (c : Condition) (subject : Text) : Except Fault Bool :=
  match Pattern.compile c.patternText with
  | .ok compiled => .ok (Pattern.search compiled.flags compiled.pattern subject)
  | .error e =>
    match e.fault? with
    | some fault => .error fault
    | none => .ok false

/-- What an operator says of the value of a field. -/
def holds (c : Condition) (actual : Value) : Operator → Except Fault Bool
  | .equals => actual.looseEq false c.expected
  | .notEquals => (actual.looseEq false c.expected).map (!·)
  | .isIn => .ok (c.values.contains actual.looseText)
  | .notIn => .ok (!c.values.contains actual.looseText)
  | .contains => .ok (Text.includes c.expected.looseText actual.looseText)
  | .notContains => .ok (!Text.includes c.expected.looseText actual.looseText)
  | .startsWith => .ok (c.expected.looseText.isPrefixOf actual.looseText)
  | .endsWith => .ok (c.expected.looseText.isSuffixOf actual.looseText)
  | .isNullOrEmpty => .ok actual.isFalsy
  | .isNotNullOrEmpty => .ok (!actual.isFalsy)
  | .greaterThan => numberTest (fun x y => y.lt x) actual c.expected
  | .lessThan => numberTest (fun x y => x.lt y) actual c.expected
  | .regexMatch => c.patternTest actual.looseText

/-- What the condition says of a context. -/
def evaluate (c : Condition) (context : Fields) : Except Fault Bool :=
  if c.isValid then
    match Operator.ofName? c.operator with
    | some operator => c.holds (context.resolve c.field) operator
    | none => .ok false
  else .ok false

/-- The warnings that evaluating the condition gives, in whatever context. -/
def warnings (c : Condition) : List Warning :=
  if c.isValid && Operator.ofName? c.operator == some .regexMatch then
    match Pattern.compile c.patternText with
    | .error .malformed => [.invalidPattern]
    | _ => []
  else []

end Condition

end UnitRouting

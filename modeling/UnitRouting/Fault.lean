import UnitRouting.Number.Power
import UnitRouting.Text.Basic

/-! # Faults

Everything that can go wrong, by cause. A fault that an author or a client is told about carries
what its message names; `Fault.message` words it. -/

namespace UnitRouting

/-- Why a text is not a JSON document. -/
inductive JsonError where
  | expectingValue
  | expectingName
  | expectingColon
  | expectingComma
  | unterminatedText
  | controlCharacter
  | invalidEscape
  | invalidHexEscape
  | extraData
  | byteOrderMark
  deriving DecidableEq

/-- A place in a text: line and column counted from one, offset from zero. -/
structure Position where
  line : Nat
  column : Nat
  offset : Nat
  deriving DecidableEq

/-- The wording of a syntax error. -/
def JsonError.message : JsonError → Text
  | .expectingValue => "Expecting value"
  | .expectingName => "Expecting property name enclosed in double quotes"
  | .expectingColon => "Expecting ':' delimiter"
  | .expectingComma => "Expecting ',' delimiter"
  | .unterminatedText => "Unterminated string starting at"
  | .controlCharacter => "Invalid control character at"
  | .invalidEscape => "Invalid \\escape"
  | .invalidHexEscape => "Invalid \\uXXXX escape"
  | .extraData => "Extra data"
  | .byteOrderMark => "Unexpected UTF-8 BOM (decode using utf-8-sig)"

/-- Why authored input is refused. -/
inductive Refusal where
  | fieldNotText
  | operatorNotText
  /-- A value that has to be a scalar is of another kind. -/
  | notScalar (what kind : Text)
  /-- An operator with a single value was given a list. -/
  | listForSingle (operator : Text)
  | unknownConditionAttributes (names : List Text)
  | ruleIdMissing
  | priorityNotInteger (shown : Option Text)
  | combinatorUnknown (shown : Text)
  | conditionsMalformed
  | unknownRuleAttributes (names : List Text)
  | duplicateRuleId (id : Text)
  deriving DecidableEq

/-- The wording of a refusal. -/
def Refusal.message : Refusal → Text
  | .fieldNotText => "condition field must be a string"
  | .operatorNotText => "condition operator must be a string"
  | .notScalar what kind => what ++ " must be a scalar, got " ++ kind
  | .listForSingle operator =>
    "operator " ++ (if operator.isEmpty then Text.ofString "<unset>" else operator)
      ++ " takes a single value, not a list"
  | .unknownConditionAttributes names =>
    "unknown condition attribute(s): " ++ Text.join ", " names
  | .ruleIdMissing => "rule id must be a non-empty string"
  | .priorityNotInteger none => "priority must be an integer"
  | .priorityNotInteger (some shown) => "priority must be an integer, got " ++ shown
  | .combinatorUnknown shown => "condition operator must be AND or OR, got " ++ shown
  | .conditionsMalformed => "rule conditions must be Condition instances"
  | .unknownRuleAttributes names => "unknown rule attribute(s): " ++ Text.join ", " names
  | .duplicateRuleId id => "duplicate rule id: " ++ id

/-- What is wrong with one rule of a configuration. -/
inductive RuleDefect where
  | conditionNotObject
  | conditionsNotObject
  | clausesNotList
  | resultNotObject
  | refused (cause : Refusal)
  deriving DecidableEq

def RuleDefect.message : RuleDefect → Text
  | .conditionNotObject => "each condition must be an object"
  | .conditionsNotObject => "conditions must be an object"
  | .clausesNotList => "clauses must be a list"
  | .resultNotObject => "result must be an object"
  | .refused cause => cause.message

/-- Why a configuration cannot be loaded. -/
inductive ConfigDefect where
  | malformed (error : JsonError) (position : Position)
  | notObject
  | rootMissing
  | rulesNotList
  /-- The entry at a position, counted from one, is not an object. -/
  | ruleNotObject (index : Nat)
  /-- A rule, named by its quoted id, has a defect. -/
  | rule (label : Text) (defect : RuleDefect)
  | refused (cause : Refusal)
  deriving DecidableEq

/-- The wording of a syntax error for authors: where it is, then what it is. -/
def JsonError.locatedMessage (error : JsonError) (position : Position) : Text :=
  "line " ++ Text.ofNat position.line ++ " column " ++ Text.ofNat position.column ++ ": "
    ++ error.message

/-- The wording of a syntax error for clients: what it is, then where. -/
def JsonError.messageAt (error : JsonError) (position : Position) : Text :=
  error.message ++ ": line " ++ Text.ofNat position.line ++ " column "
    ++ Text.ofNat position.column ++ " (char " ++ Text.ofNat position.offset ++ ")"

/-- The key of a configuration under which everything stands. -/
def configRootKey : Text := "unit_mapping_rules"

def ConfigDefect.message : ConfigDefect → Text
  | .malformed error position => error.locatedMessage position
  | .notObject => "config must be a JSON object"
  | .rootMissing => "missing '" ++ configRootKey ++ "' object"
  | .rulesNotList => "rules must be a list"
  | .ruleNotObject index => "rule #" ++ Text.ofNat index ++ ": must be an object"
  | .rule label defect => "rule " ++ label ++ ": " ++ defect.message
  | .refused cause => cause.message

/-- Everything that can go wrong. -/
inductive Fault where
  /-- Authored input is refused. -/
  | refused (cause : Refusal)
  | ruleNotFound (id : Text)
  | conditionNotFound (ruleId index : Text)
  | config (defect : ConfigDefect)
  | json (error : JsonError) (position : Position)
  /-- A number is beyond what a computation can hold: a radix literal that no floating point
      number reaches, or the repeat count of a pattern. -/
  | tooLarge
  /-- A numeral has more than `numeralLimit` digits. -/
  | numeralTooLong
  /-- A pattern asks for the ASCII and for the Unicode classes. -/
  | patternConflict
  /-- An argument is of a kind that the operation has no meaning for. -/
  | wrongKind
  /-- A value without the operations of text is used as text. -/
  | notText
  /-- Bytes are not UTF-8. -/
  | undecodable
  deriving DecidableEq

/-- The most digits that a decimal numeral is read or written with. -/
def numeralLimit : Nat := 4300

/-- The least number whose numeral is beyond the limit. -/
def numeralBound : Nat := tenTo numeralLimit

/-- The message of a fault that has one. -/
def Fault.message? : Fault → Option Text
  | .refused cause => some cause.message
  | .ruleNotFound id => some ("rule not found: " ++ id)
  | .conditionNotFound ruleId index =>
    some ("rule " ++ ruleId ++ " has no condition at index " ++ index)
  | .config defect => some defect.message
  | .json error position => some (error.messageAt position)
  | .tooLarge | .numeralTooLong | .patternConflict | .wrongKind | .notText | .undecodable => none

end UnitRouting

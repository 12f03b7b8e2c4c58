import UnitRouting.Text.Basic

/-! # Condition operators

The thirteen ways to compare a field with authored text, and the shape of the value that each of
them takes. A condition may name an operator that is none of these; it never holds then. -/

namespace UnitRouting

/-- An operator that conditions are evaluated with. -/
inductive Operator where
  | equals
  | notEquals
  | isIn
  | notIn
  | contains
  | notContains
  | startsWith
  | endsWith
  | isNullOrEmpty
  | isNotNullOrEmpty
  | greaterThan
  | lessThan
  | regexMatch
  deriving DecidableEq

/-- The shape of the value that an operator takes. -/
inductive ValueShape where
  /-- One text, or none. -/
  | single
  /-- A list of members. -/
  | set
  /-- No value. -/
  | valueless
  deriving DecidableEq

namespace Operator

def name : Operator → Text
  | equals => "EQUALS"
  | notEquals => "NOT_EQUALS"
  | isIn => "IN"
  | notIn => "NOT_IN"
  | contains => "CONTAINS"
  | notContains => "NOT_CONTAINS"
  | startsWith => "STARTS_WITH"
  | endsWith => "ENDS_WITH"
  | isNullOrEmpty => "IS_NULL_OR_EMPTY"
  | isNotNullOrEmpty => "IS_NOT_NULL_OR_EMPTY"
  | greaterThan => "GREATER_THAN"
  | lessThan => "LESS_THAN"
  | regexMatch => "REGEX_MATCH"

def all : List Operator :=
  [equals, notEquals, isIn, notIn, contains, notContains, startsWith, endsWith, isNullOrEmpty,
   isNotNullOrEmpty, greaterThan, lessThan, regexMatch]

/-- The operator of a name. -/
def ofName? (t : Text) : Option Operator := all.find? (·.name == t)

def shape : Operator → ValueShape
  | isIn | notIn => .set
  | isNullOrEmpty | isNotNullOrEmpty => .valueless
  | _ => .single

end Operator

/-- The shape of the value under an operator name; an unknown operator takes a single value. -/
def ValueShape.ofName (operator : Text) : ValueShape :=
  match Operator.ofName? operator with
  | some known => known.shape
  | none => .single

end UnitRouting

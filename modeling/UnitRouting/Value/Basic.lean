import UnitRouting.Number.Basic

/-! # Metadata values

The values that contexts, configurations and requests are made of: what JSON can write, and one
more, `undefined`, for a field that a context does not have. -/

namespace UnitRouting

/-- A metadata value. The fields of an object are in the order in which they were first written,
    and no two of them have the same name. -/
inductive Value where
  /-- The absence of a value, distinct from `null`. -/
  | undefined
  | null
  | bool (b : Bool)
  | int (n : Int)
  | float (x : Double)
  | text (t : Text)
  | list (items : List Value)
  | object (fields : List (Text × Value))

/-- Named values in order. -/
abbrev Fields := List (Text × Value)

namespace Fields

/-- The value of the first field with a name. -/
def get? (name : Text) : Fields → Option Value
  | [] => none
  | (key, value) :: rest => if key = name then some value else get? name rest

/-- Sets a field: in its place if there is one of the name, else at the end. -/
def set (name : Text) (value : Value) : Fields → Fields
  | [] => [(name, value)]
  | (key, old) :: rest =>
    if key = name then (key, value) :: rest else (key, old) :: set name value rest

/-- The names in order. -/
def names (fields : Fields) : List Text := fields.map (·.1)

/-- The names that are not among the allowed ones, sorted. -/
def unknown (allowed : List Text) (fields : Fields) : List Text :=
  Text.sorted (fields.names.filter fun name => !allowed.contains name)

end Fields

namespace Value

/-- The name of the kind of a value, as error messages spell it. -/
def kindName : Value → Text
  | .undefined => "_Undefined"
  | .null => "NoneType"
  | .bool _ => "bool"
  | .int _ => "int"
  | .float _ => "float"
  | .text _ => "str"
  | .list _ => "list"
  | .object _ => "dict"

/-- `undefined` and `null`. -/
def isNullish : Value → Bool
  | .undefined | .null => true
  | _ => false

/-- The number of a numeric value; booleans are not numeric. -/
def number? : Value → Option Number
  | .int n => some (.int n)
  | .float x => some (.float x)
  | _ => none

/-- The value counts as empty for a condition: nothing, `false`, zero, NaN or the empty text. A list
    or an object never does. -/
def isFalsy : Value → Bool
  | .undefined | .null => true
  | .bool b => !b
  | .int n => n == 0
  | .float x => x.isZero || x.isNaN
  | .text t => t.isEmpty
  | .list _ | .object _ => false

/-- The value counts as given in a configuration: it is not nothing, `false`, zero or empty. -/
def isGiven : Value → Bool
  | .undefined | .null => false
  | .bool b => b
  | .int n => n != 0
  | .float x => !x.isZero
  | .text t => !t.isEmpty
  | .list items => !items.isEmpty
  | .object fields => !fields.isEmpty

end Value

end UnitRouting

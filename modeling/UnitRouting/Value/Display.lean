import UnitRouting.Fault
import UnitRouting.Number.Layout
import UnitRouting.Text.Quoted
import UnitRouting.Value.Basic

/-! # Values shown to people

The text of a value in messages, and wherever a setting, an id or a name was given as something
other than text. A text alone stands for itself; inside lists and objects texts are quoted. -/

namespace UnitRouting

/-- The numeral of an integer; there is none beyond the digit limit. -/
def numeral (n : Int) : Except Fault Text :=
  if n.natAbs < numeralBound then .ok (Text.ofInt n) else .error .numeralTooLong

namespace Value

mutual

/-- The value as it appears inside lists, objects and messages. -/
def shown : Value → Except Fault Text
  | .undefined => .ok "UNDEFINED"
  | .null => .ok "None"
  | .bool b => .ok (if b then "True" else "False" : Text)
  | .int n => numeral n
  | .float x => .ok (Layout.display.write x)
  | .text t => .ok t.quoted
  | .list items => do
    let parts ← shownItems items
    return "[" ++ Text.join ", " parts ++ "]"
  | .object fields => do
    let parts ← shownFields fields
    return "\x7b" ++ Text.join ", " parts ++ "\x7d"

/-- Each item as shown. -/
def shownItems : List Value → Except Fault (List Text)
  | [] => .ok []
  | item :: rest => do
    let part ← shown item
    let parts ← shownItems rest
    return part :: parts

/-- Each field as shown: the quoted name, a colon, the value. -/
def shownFields : List (Text × Value) → Except Fault (List Text)
  | [] => .ok []
  | (name, value) :: rest => do
    let part ← shown value
    let parts ← shownFields rest
    return (name.quoted ++ ": " ++ part) :: parts

end

/-- The value as a text of its own. -/
def display : Value → Except Fault Text
  | .text t => .ok t
  | value => value.shown

end Value

end UnitRouting

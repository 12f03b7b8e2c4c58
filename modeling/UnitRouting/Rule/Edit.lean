import UnitRouting.Rule.RuleSet

/-! # Editing rule sets

What authors do to the rules of a set and to its settings. An edit gives the whole new rule set or
a fault. Arguments come from outside, so ids, indices and directions may be values of any kind. -/

namespace UnitRouting

namespace RuleSet

/-- The position of the rule whose id a value is; only texts are ids. -/
def positionOf? (rs : RuleSet) : Value → Option Nat
  | .text t => rs.indexOf? t
  | _ => none

/-- The position of the rule with an id, which there has to be. -/
def find (rs : RuleSet) (id : Value) : Except Fault Nat :=
  match rs.positionOf? id with
  | some index => .ok index
  | none => do
    let shown ← id.display
    .error (.ruleNotFound shown)

/-- Puts a changed rule in the place of the one with an id. -/
def replaceRule (rs : RuleSet) (id : Value) (change : Rule → Except Fault Rule) :
    Except Fault (RuleSet × Rule) := do
  let index ← rs.find id
  match rs.rules[index]? with
  | none => .error .wrongKind
  | some rule => do
    let changed ← change rule
    let next ← rs.withRules (rs.rules.set index changed)
    return (next, changed)

def updateRule (rs : RuleSet) (id : Value) (edit : RuleEdit) : Except Fault (RuleSet × Rule) :=
  rs.replaceRule id (·.withChanges edit)

def deleteRule (rs : RuleSet) (id : Value) : Except Fault RuleSet := do
  let index ← rs.find id
  rs.withRules (rs.rules.eraseIdx index)

/-- The list with the items at two positions exchanged. -/
def swapped {α : Type} (items : List α) (i j : Nat) : List α :=
  match items[i]?, items[j]? with
  | some a, some b => (items.set i b).set j a
  | _, _ => items

/-- The position that a direction leads to; `none` if it lies beyond the ends of the list. A
    direction that is a floating point number leads beyond the ends or nowhere. -/
def target? (index length : Nat) (direction : Value) : Except Fault (Option Nat) :=
  let within (n : Int) : Option Nat :=
    if 0 ≤ n ∧ n < (length : Int) then some n.toNat else none
  match direction with
  | .int n => .ok (within ((index : Int) + n))
  | .bool b => .ok (within ((index : Int) + if b then 1 else 0))
  | .float x =>
    match (Double.intAdd index x).place? with
    | some place =>
      if place.lt (.ofInt 0) || !place.lt (.ofInt length) then .ok none else .error .wrongKind
    | none => .error .wrongKind
  | _ => .error .wrongKind

/-- Swaps the rule with an id and the one that a direction leads to, if there is one. -/
def moveRule (rs : RuleSet) (id direction : Value) : Except Fault RuleSet := do
  let index ← rs.find id
  match ← target? index rs.rules.length direction with
  | none => return rs
  | some target => rs.withRules (swapped rs.rules index target)

def addCondition (rs : RuleSet) (id field operator value : Value) :
    Except Fault (RuleSet × Rule) := do
  let condition ← Condition.create field operator value
  rs.replaceRule id fun rule => rule.withChanges (.ofConditions (rule.conditions ++ [condition]))

/-- The position of a condition of a rule. -/
def conditionIndex (rule : Rule) (index : Value) : Except Fault Nat := do
  let missing : Except Fault Nat := do
    let shown ← index.display
    .error (.conditionNotFound rule.id shown)
  let within (n : Int) : Except Fault Nat :=
    if 0 ≤ n ∧ n < (rule.conditions.length : Int) then .ok n.toNat else missing
  match index with
  | .int n => within n
  | .bool b => within (if b then 1 else 0)
  | .float x =>
    match x.place? with
    | some place =>
      if place.lt (.ofInt 0) || !place.lt (.ofInt rule.conditions.length) then missing
      else .error .wrongKind
    | none => missing
  | _ => .error .wrongKind

def updateCondition (rs : RuleSet) (id index : Value) (changes : Fields) :
    Except Fault (RuleSet × Rule) :=
  rs.replaceRule id fun rule => do
    let i ← conditionIndex rule index
    match rule.conditions[i]? with
    | none => .error .wrongKind
    | some condition => do
      let changed ← condition.withChanges changes
      rule.withChanges (.ofConditions (rule.conditions.set i changed))

def removeCondition (rs : RuleSet) (id index : Value) : Except Fault (RuleSet × Rule) :=
  rs.replaceRule id fun rule => do
    let i ← conditionIndex rule index
    rule.withChanges (.ofConditions (rule.conditions.eraseIdx i))

/-- The rule set with the text of a value as its unit for contexts that match no rule. -/
def setDefaultUnitId (rs : RuleSet) (value : Value) : Except Fault RuleSet := do
  let text ← value.display
  create rs.version text rs.rules

/-- The rule set with the text of a value as its version. -/
def setVersion (rs : RuleSet) (value : Value) : Except Fault RuleSet := do
  let text ← value.display
  create text rs.defaultUnitId rs.rules

end RuleSet

end UnitRouting

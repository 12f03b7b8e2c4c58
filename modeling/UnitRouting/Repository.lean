import UnitRouting.Config.Build
import UnitRouting.Config.Load
import UnitRouting.Rule.Edit
import UnitRouting.Rule.Engine

/-! # The rule repository

The rule set under construction, with its engine, and a counter from which new rules are numbered.
A command runs step by step: where it meets a fault it stops, and the repository stays as the steps
before have left it. -/

namespace UnitRouting

/-- The engine of the current rule set, and the number of the last rule that was created. -/
structure Repository where
  engine : Engine
  counter : Nat

/-- What authors can do to a repository. -/
inductive Command where
  | addRule (edit : RuleEdit)
  | updateRule (id : Value) (edit : RuleEdit)
  | deleteRule (id : Value)
  /-- Swaps a rule with the one that many positions further down. -/
  | moveRule (id direction : Value)
  | addCondition (id field operator value : Value)
  | updateCondition (id index : Value) (changes : Fields)
  | removeCondition (id index : Value)
  | setDefaultUnitId (value : Value)
  | setVersion (value : Value)
  /-- Replaces everything by a loaded configuration. -/
  | replaceAll (ruleSet : RuleSet)

/-- Adds the condition that fields describe; what they leave out is empty, and the operator is
    equality. -/
def Command.appendCondition (id : Value) (fields : Fields) : Command :=
  .addCondition id ((fields.get? "field").getD (.text []))
    ((fields.get? "operator").getD (.text Operator.equals.name))
    ((fields.get? "value").getD (.text []))

/-- What a command answers. -/
inductive Reply where
  | rule (rule : Rule)
  | deleted
  /-- The ids of the rules in their authored order. -/
  | order (ids : List Text)
  /-- The new text of a setting. -/
  | setting (text : Text)

/-- The ids of a rule set as a reply. -/
def Reply.ofOrder (rs : RuleSet) : Reply := .order (rs.rules.map (·.id))

namespace Repository

/-- The repository of a rule set; its rules count as created. -/
def ofRuleSet (rs : RuleSet) : Repository := ⟨.ofRuleSet rs, rs.rules.length⟩

def empty : Repository := ofRuleSet .empty

/-- The current rule set. -/
def ruleSet (repo : Repository) : RuleSet := repo.engine.ruleSet

/-- The repository with another rule set. -/
def commit (repo : Repository) (rs : RuleSet) : Repository := { repo with engine := .ofRuleSet rs }

/-- The repository with another number of the last rule. -/
def count (repo : Repository) (n : Nat) : Repository := { repo with counter := n }

/-- The priority of the first rule that is created. -/
def firstPriority : Int := 100

/-- By how much the priority of each further rule is lower. -/
def priorityStep : Int := 10

/-- The id of the rule with a number. -/
def numberedId (n : Nat) : Text := "rule-" ++ Text.ofNat n

/-- The least number from `n` on whose id is not in use, if there is one among the next ones. -/
def freeFrom (used : List Text) : Nat → Nat → Nat
  | 0, n => n
  | steps + 1, n => if used.contains (numberedId n) then freeFrom used steps (n + 1) else n

/-- The number of the next rule: the least one above the counter whose id is not in use. -/
def nextNumber (repo : Repository) : Nat :=
  freeFrom (repo.ruleSet.rules.map (·.id)) repo.ruleSet.rules.length (repo.counter + 1)

/-- What the rule with a number is made of, unless something else is asked for. -/
def newRuleInput (n : Nat) : RuleInput where
  id := .text (numberedId n)
  name := .text ("Rule " ++ Text.ofNat n)
  priority := .int (firstPriority - ((n : Int) - 1) * priorityStep)
  unitId := .text []
  combinator := .text Combinator.all.name
  conditions := .entries []

/-- The rule with a number, made as an edit asks for. -/
def newRule (n : Nat) (edit : RuleEdit) : Except Fault Rule :=
  if edit.unknown.isEmpty then Rule.create (edit.applyTo (newRuleInput n)) else .error .wrongKind

end Repository

/-- Work on a repository. A fault ends it and leaves the repository as it is at that point. -/
abbrev Authoring := EStateM Fault Repository

namespace Authoring

open MonadExcept (ofExcept)

/-- Puts a changed rule set in the place of the current one. -/
def mutate {α : Type} (change : RuleSet → Except Fault (RuleSet × α)) : Authoring α := do
  let (rs, answer) ← ofExcept (change (← get).ruleSet)
  modify (·.commit rs)
  return answer

/-- Adds a rule at the end. The number is taken as soon as there is a rule to carry it. -/
def addRule (edit : RuleEdit) : Authoring Rule := do
  let repo ← get
  let n := repo.nextNumber
  let rule ← ofExcept (Repository.newRule n edit)
  modify (·.count n)
  mutate fun rs => (rs.withRules (rs.rules ++ [rule])).map fun next => (next, rule)

/-- Replaces the rule set; numbers that were given stay given. -/
def replaceAll (rs : RuleSet) : Authoring PUnit := do
  modify (·.commit rs)
  modify fun repo => repo.count (max repo.counter rs.rules.length)

end Authoring

/-- Carries out a command. -/
def Command.authoring : Command → Authoring Reply
  | .addRule edit => do return .rule (← Authoring.addRule edit)
  | .updateRule id edit => do return .rule (← Authoring.mutate (·.updateRule id edit))
  | .deleteRule id => Authoring.mutate fun rs => (rs.deleteRule id).map fun next => (next, .deleted)
  | .moveRule id direction =>
    Authoring.mutate fun rs => (rs.moveRule id direction).map fun next => (next, .ofOrder next)
  | .addCondition id field operator value => do
    return .rule (← Authoring.mutate (·.addCondition id field operator value))
  | .updateCondition id index changes => do
    return .rule (← Authoring.mutate (·.updateCondition id index changes))
  | .removeCondition id index => do return .rule (← Authoring.mutate (·.removeCondition id index))
  | .setDefaultUnitId value =>
    Authoring.mutate fun rs =>
      (rs.setDefaultUnitId value).map fun next => (next, .setting next.defaultUnitId)
  | .setVersion value =>
    Authoring.mutate fun rs => (rs.setVersion value).map fun next => (next, .setting next.version)
  | .replaceAll rs => do
    Authoring.replaceAll rs
    return .ofOrder rs

namespace Repository

/-- The repository after a command, whether or not it met a fault. -/
def step (repo : Repository) (command : Command) : Repository :=
  match command.authoring.run repo with
  | .ok _ next | .error _ next => next

/-- What a command answers, or the fault that it meets. -/
def answer (repo : Repository) (command : Command) : Except Fault Reply :=
  match command.authoring.run repo with
  | .ok reply _ => .ok reply
  | .error fault _ => .error fault

end Repository

end UnitRouting

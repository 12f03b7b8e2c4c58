import UnitRouting.Proofs.Config.Loaded
import UnitRouting.Proofs.Repository.Step

/-! # Reachable repositories

What holds of every repository that authors can arrive at, from nothing or from a configuration,
through commands that succeed and commands that fail. -/

namespace UnitRouting

open Outcome

/-- The repositories that commands lead to, whether or not they meet faults. -/
inductive Repository.Reachable (initial : RuleSet → Prop) (admitted : Command → Prop) :
    Repository → Prop where
  | start {rs : RuleSet} (given : initial rs) : Reachable initial admitted (.ofRuleSet rs)
  | step {repo : Repository} {command : Command} (before : Reachable initial admitted repo)
      (allowed : admitted command) : Reachable initial admitted (repo.step command)

/-- The repository after commands, whether or not they meet faults. -/
def Repository.after (repo : Repository) (commands : List Command) : Repository :=
  commands.foldl step repo

namespace Repository

variable {P : Rule → Prop} {repo : Repository} {command : Command}

theorem Sound.step (lasting : RuleSet.Lasting P) (sound : repo.Sound P)
    (respects : command.Respects P) : (repo.step command).Sound P := by
  rcases (Command.authoring_keeps lasting respects repo sound).ok_or_error with
    ⟨reply, next, run, here⟩ | ⟨fault, run, -⟩
  · rw [Repository.step, run]
    exact here
  · rw [Repository.step, run]
    exact sound

/-- Of the rules it takes nothing but distinct ids: a command that fails does nothing, and fails only
    as is to be expected of its arguments. -/
theorem Sound.answer_expected (sound : repo.Sound P) {fault : Fault}
    (failed : repo.answer command = .error fault) :
    repo.step command = repo ∧ fault.Expected command.Proper := by
  have bare : repo.Sound fun _ => True :=
    ⟨⟨sound.rules.distinct, fun _ _ => trivial⟩, sound.engine⟩
  have lasting : RuleSet.Lasting fun _ => True := fun _ _ _ _ _ _ => trivial
  have respects : command.Respects fun _ => True := by
    cases command with
    | replaceAll rs => cases failed
    | addRule edit => exact fun _ _ _ => trivial
    | updateRule id edit => exact fun _ _ _ _ => trivial
    | _ => trivial
  rcases (Command.authoring_keeps lasting respects repo bare).ok_or_error with
    ⟨reply, next, run, -⟩ | ⟨met, run, expected⟩
  · rw [Repository.answer, run] at failed
    cases failed
  · rw [Repository.answer, run] at failed
    cases failed
    exact ⟨by rw [Repository.step, run], expected⟩

theorem Sound.answer_error (sound : repo.Sound P) {fault : Fault}
    (failed : repo.answer command = .error fault) :
    repo.step command = repo ∧ fault.isDuplicateId = false := by
  obtain ⟨same, expected⟩ := sound.answer_expected failed
  exact ⟨same, expected.other⟩

theorem Reachable.sound {initial : RuleSet → Prop} {admitted : Command → Prop}
    (reached : Reachable initial admitted repo) (lasting : RuleSet.Lasting P)
    (starts : ∀ rs, initial rs → rs.Sound P)
    (respects : ∀ command, admitted command → command.Respects P) : repo.Sound P := by
  induction reached with
  | start given => exact sound_ofRuleSet (starts _ given)
  | step before allowed ih => exact ih.step lasting (respects _ allowed)

end Repository

/-- The rule set was accepted by the constructor. -/
def RuleSet.Constructed (rs : RuleSet) : Prop :=
  ∃ version defaultUnitId rules, create version defaultUnitId rules = .ok rs

theorem RuleSet.Constructed.sound {rs : RuleSet} (constructed : rs.Constructed) :
    rs.Sound fun _ => True := by
  obtain ⟨version, defaultUnitId, rules, made⟩ := constructed
  obtain ⟨distinct, rfl⟩ := create_eq_ok.mp made
  exact ⟨distinct, fun _ _ => trivial⟩

/-- A rule set that the command hands over was accepted by the constructor. -/
def Command.Constructed : Command → Prop
  | .replaceAll rs => rs.Constructed
  | _ => True

theorem Command.Constructed.respects {command : Command} (constructed : command.Constructed) :
    command.Respects fun _ => True := by
  cases command with
  | addRule edit => exact fun _ _ _ => trivial
  | updateRule id edit => exact fun _ _ _ _ => trivial
  | replaceAll rs => exact constructed.sound
  | _ => trivial

/-- Whatever rule sets the constructor accepted, no two rules have the same id. -/
theorem Repository.Reachable.constructed {repo : Repository}
    (reached : repo.Reachable RuleSet.Constructed Command.Constructed) :
    repo.Sound fun _ => True := by
  have lasting : RuleSet.Lasting fun _ => True := fun _ _ _ _ _ _ => trivial
  exact reached.sound lasting (fun _ given => given.sound) fun _ given => given.respects

/-- The conditions that the edit hands over were made from authored input. -/
def RuleEdit.Authored (edit : RuleEdit) : Prop :=
  ∀ entries, edit.conditions = some (.entries entries) → ∀ c, some c ∈ entries → c.Made

/-- The rule set is the empty one or loaded from the text of a configuration. -/
def RuleSet.Loaded (rs : RuleSet) : Prop := rs = .empty ∨ ∃ t, parse t = .ok rs

theorem RuleSet.sound_empty (P : Rule → Prop) : empty.Sound P :=
  ⟨List.nodup_nil, fun _ member => absurd member List.not_mem_nil⟩

/-- Conditions that the command hands over were made from authored input, and a rule set that it
    hands over was loaded. -/
def Command.Authored : Command → Prop
  | .addRule edit | .updateRule _ edit => edit.Authored
  | .replaceAll rs => ∃ t, RuleSet.parse t = .ok rs
  | _ => True

/-- The rule has an id, and its conditions have a property. -/
structure Rule.Bears (Q : Condition → Prop) (r : Rule) : Prop where
  named : r.id ≠ []
  conditions : ∀ c ∈ r.conditions, Q c

section Bears

variable {Q : Condition → Prop} (holds : ∀ c : Condition, c.Made → Q c)
include holds

theorem Rule.lasting_bears : RuleSet.Lasting (Rule.Bears Q) := by
  intro r s conditions bears known changed
  have same := Rule.eq_of_withChanges_ofConditions changed
  subst same
  refine ⟨bears.named, fun c member => ?_⟩
  rcases known c member with old | made
  · exact bears.conditions c old
  · exact holds c made

theorem RuleEdit.Authored.bears {edit : RuleEdit} (authored : edit.Authored) {input : RuleInput}
    (bear : ∀ entries, input.conditions = .entries entries → ∀ c, some c ∈ entries → Q c)
    {r : Rule} (made : Rule.create (edit.applyTo input) = .ok r) : r.Bears Q := by
  refine ⟨Rule.id_ne_nil_of_create made, fun c member => ?_⟩
  have given := ConditionsInput.conditions_eq_ok.mp (Rule.create_eq_ok.mp made).2.2.2.2.2
  have entry : some c ∈ r.conditions.map some := List.mem_map_of_mem member
  cases handed : edit.conditions with
  | none =>
      simp only [applyTo, handed, Option.getD_none] at given
      exact bear _ given c entry
  | some handedOver =>
      simp only [applyTo, handed, Option.getD_some] at given
      exact holds c (authored _ (handed.trans (congrArg some given)) c entry)

theorem RuleSet.bears_of_parse {t : Text} {rs : RuleSet} (parsed : parse t = .ok rs) :
    rs.Sound (Rule.Bears Q) := by
  simp only [parse, bind_eq_ok] at parsed
  obtain ⟨v, -, loaded⟩ := parsed
  obtain ⟨distinct, fields, body, raws, -, -, -, each⟩ := load_eq_ok loaded
  refine ⟨distinct, fun r member => ?_⟩
  obtain ⟨i, raw, -, ruleLoaded⟩ := each r member
  obtain ⟨_, input, -, created, -, made⟩ := Rule.load_made ruleLoaded
  exact ⟨Rule.id_ne_nil_of_create created, fun c given => holds c (made c given)⟩

theorem Command.Authored.respects_bears {command : Command} (authored : command.Authored) :
    command.Respects (Rule.Bears Q) := by
  cases command with
  | addRule edit =>
      intro n r made
      refine RuleEdit.Authored.bears holds authored ?_ (Repository.newRule_eq_ok.mp made).2
      rintro entries ⟨⟩ c member
      exact absurd member List.not_mem_nil
  | updateRule id edit =>
      intro r s bears changed
      refine RuleEdit.Authored.bears holds authored ?_ (Rule.withChanges_eq_ok.mp changed).2
      rintro entries ⟨⟩ c member
      obtain ⟨d, given, same⟩ := List.mem_map.mp member
      exact Option.some.inj same ▸ bears.conditions d given
  | replaceAll rs =>
      obtain ⟨t, parsed⟩ := authored
      exact RuleSet.bears_of_parse holds parsed
  | _ => trivial

/-- Whatever holds of every condition that was made holds of the conditions that authors arrive at. -/
theorem Repository.Reachable.bears {repo : Repository}
    (reached : repo.Reachable RuleSet.Loaded Command.Authored) : repo.Sound (Rule.Bears Q) := by
  refine reached.sound (Rule.lasting_bears holds) ?_ fun _ authored => authored.respects_bears holds
  rintro rs (rfl | ⟨t, parsed⟩)
  · exact RuleSet.sound_empty (Rule.Bears Q)
  · exact RuleSet.bears_of_parse holds parsed

end Bears

/-- The rule has an id and well-formed conditions. -/
structure Rule.WellFormed (r : Rule) : Prop where
  named : r.id ≠ []
  conditions : ∀ c ∈ r.conditions, c.WellFormed

theorem Rule.bears_wellFormed : Rule.Bears Condition.WellFormed = Rule.WellFormed := by
  funext r
  apply propext
  constructor
  · intro bears
    exact ⟨bears.named, bears.conditions⟩
  · intro formed
    exact ⟨formed.named, formed.conditions⟩

theorem Rule.lasting_wellFormed : RuleSet.Lasting Rule.WellFormed :=
  bears_wellFormed ▸ lasting_bears fun _ => Condition.Made.wellFormed

theorem RuleSet.sound_of_parse {t : Text} {rs : RuleSet} (parsed : parse t = .ok rs) :
    rs.Sound Rule.WellFormed :=
  Rule.bears_wellFormed ▸ bears_of_parse (fun _ => Condition.Made.wellFormed) parsed

theorem Command.Authored.respects {command : Command} (authored : command.Authored) :
    command.Respects Rule.WellFormed :=
  Rule.bears_wellFormed ▸ authored.respects_bears fun _ => Condition.Made.wellFormed

/-- What a rule shows under a name. -/
def Rule.attribute? (r : Rule) (name : Text) : Option Value :=
  match r.toValue with
  | .object fields => Fields.get? name fields
  | _ => none

/-- Every repository that authors arrive at has distinct ids that are not empty, integer priorities,
    combinators by one of two names, conditions of the shape that their operators take, and the
    engine order of its own rules; and no command fails on it for an id that two rules have. -/
theorem reachable_repository_sound {repo : Repository}
    (reached : repo.Reachable RuleSet.Loaded Command.Authored) :
    RuleSet.DistinctIds repo.ruleSet.rules ∧
    (∀ r ∈ repo.ruleSet.rules, r.id ≠ [] ∧
      (∃ n : Int, r.attribute? "priority" = some (.int n)) ∧
      (r.attribute? "condition_operator" = some (.text "AND") ∨
        r.attribute? "condition_operator" = some (.text "OR")) ∧
      ∀ c ∈ r.conditions, c.WellFormed) ∧
    repo.engine.ordered = Rule.inOrder repo.ruleSet.rules ∧
    ∀ command fault, repo.answer command = .error fault → fault.isDuplicateId = false := by
  have sound : repo.Sound Rule.WellFormed := by
    refine reached.sound Rule.lasting_wellFormed ?_ fun _ authored => authored.respects
    rintro rs (rfl | ⟨t, parsed⟩)
    · exact RuleSet.sound_empty Rule.WellFormed
    · exact RuleSet.sound_of_parse parsed
  refine ⟨sound.rules.distinct, fun r member => ?_, ?_, fun command fault failed => ?_⟩
  · have formed := sound.rules.each r member
    refine ⟨formed.named, ⟨r.priority, rfl⟩, ?_, formed.conditions⟩
    cases combinator : r.combinator with
    | all => exact .inl (congrArg (fun c : Combinator => some (Value.text c.name)) combinator)
    | any => exact .inr (congrArg (fun c : Combinator => some (Value.text c.name)) combinator)
  · rw [sound.engine]
    rfl
  · exact (sound.answer_error failed).2

/-- A rule is added to an empty repository, gets a condition, is moved off the end and is asked for a
    priority that it cannot have. -/
theorem repository_sound_after_failure :
    let command : Command := .updateRule (.text "rule-1")
      ⟨none, some (.text "high"), none, none, none, []⟩
    let repo := ((((Repository.empty.step (.addRule ⟨none, none, none, none, none, []⟩)).step
      (.addCondition (.text "rule-1") (.text "channel") (.text " IN ") (.text "chat, mail"))).step
      (.moveRule (.text "rule-1") (.int 1))).step command)
    RuleSet.DistinctIds repo.ruleSet.rules ∧
      (∀ r ∈ repo.ruleSet.rules, ∀ c ∈ r.conditions, c.WellFormed) ∧
      repo.engine.ordered = Rule.inOrder repo.ruleSet.rules := by
  intro command repo
  have unconditional (edit : RuleEdit) (none : edit.conditions = none) : edit.Authored := by
    intro entries given
    rw [none] at given
    cases given
  have reached : repo.Reachable RuleSet.Loaded Command.Authored :=
    .step (.step (.step (.step (.start (.inl rfl)) (unconditional _ rfl)) trivial) trivial)
      (unconditional _ rfl)
  obtain ⟨distinct, each, ordered, -⟩ := reachable_repository_sound reached
  exact ⟨distinct, fun r member => (each r member).2.2.2, ordered⟩

end UnitRouting

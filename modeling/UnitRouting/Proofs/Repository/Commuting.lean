import UnitRouting.Proofs.Repository.Reachable
import UnitRouting.Proofs.Rule.Named

/-! # Edits of different rules

An edit of a rule reads and writes nothing but what stands under its id. So edits of different rules
may be exchanged, and clients that edit different rules do not notice one another, however their
calls are interleaved. -/

namespace UnitRouting

open Outcome

namespace Command

/-- The id in a command that edits one rule. -/
def subject? : Command → Option Value
  | .updateRule id _ | .deleteRule id | .addCondition id _ _ _ | .updateCondition id _ _
  | .removeCondition id _ => some id
  | .addRule _ | .moveRule _ _ | .setDefaultUnitId _ | .setVersion _ | .replaceAll _ => none

variable {command : Command} {id : Text}

theorem respects_of_subject? (edits : command.subject? ≠ none) :
    command.Respects fun _ => True := by
  cases command with
  | updateRule id edit => exact fun _ _ _ _ => trivial
  | deleteRule | addCondition | updateCondition | removeCondition => trivial
  | _ => exact absurd rfl edits

/-- What becomes of the rule under an id, and what is answered. -/
abbrev Act := Option Rule → Except Fault (Option Rule × Reply)

/-- The command reads what stands under an id and writes there what the act makes of it. -/
structure Confined (command : Command) (id : Text) (act : Act) : Prop where
  fits : ∀ old kept reply, RuleSet.Fits id old → act old = .ok (kept, reply) → RuleSet.Fits id kept
  run : ∀ repo : Repository, RuleSet.DistinctIds repo.ruleSet.rules →
    command.authoring.run repo =
      match act (repo.ruleSet.rule? id) with
      | .ok (kept, reply) => .ok reply (repo.commit (repo.ruleSet.write id kept))
      | .error fault => .error fault repo

/-- The command fails in the same way whatever the repository. -/
def Inert (command : Command) : Prop :=
  ∃ fault, ∀ repo : Repository, command.authoring.run repo = .error fault repo

/-- The command puts what a change makes of a rule in its place. -/
def Replaces (command : Command) (id : Value) (change : Rule → Except Fault Rule) : Prop :=
  (∀ r s, change r = .ok s → s.id = r.id) ∧
    command.authoring = do return .rule (← Authoring.mutate (·.replaceRule id change))

/-- The act of a command that replaces a rule. -/
def replacing (id : Text) (change : Rule → Except Fault Rule) : Act
  | none => .error (.ruleNotFound id)
  | some r => (change r).map fun s => (some s, .rule s)

/-- The act of a command that deletes a rule. -/
def deleting (id : Text) : Act
  | none => .error (.ruleNotFound id)
  | some _ => .ok (none, .deleted)

theorem Replaces.confined {change : Rule → Except Fault Rule}
    (replaces : command.Replaces (.text id) change) :
    command.Confined id (replacing id change) := by
  obtain ⟨keeps, same⟩ := replaces
  constructor
  · intro old kept reply fits acted
    cases old with
    | none => cases acted
    | some r =>
        obtain ⟨s, changed, ⟨⟩⟩ := map_eq_ok.mp acted
        intro s' made
        cases made
        exact (keeps r s changed).trans (fits r rfl)
  · intro repo distinct
    rw [same, EStateM.run_bind, Authoring.run_mutate, RuleSet.replaceRule_text distinct keeps]
    cases repo.ruleSet.rule? id with
    | none => rfl
    | some r =>
        simp only [replacing]
        cases change r <;> rfl

theorem Replaces.inert {v : Value} (other : ∀ t, v ≠ .text t) {change : Rule → Except Fault Rule}
    (replaces : command.Replaces v change) : command.Inert := by
  obtain ⟨fault, missing⟩ := RuleSet.find_of_not_text other
  refine ⟨fault, fun repo => ?_⟩
  rw [replaces.2, EStateM.run_bind, Authoring.run_mutate, RuleSet.replaceRule, missing, bind_error]

theorem confined_deleteRule (id : Text) : (deleteRule (.text id)).Confined id (deleting id) := by
  constructor
  · intro old kept reply _ acted
    cases old with
    | none => cases acted
    | some r =>
        cases acted
        nofun
  · intro repo distinct
    rw [authoring, Authoring.run_mutate, RuleSet.deleteRule_text distinct]
    cases repo.ruleSet.rule? id <;> rfl

theorem inert_deleteRule {v : Value} (other : ∀ t, v ≠ .text t) : (deleteRule v).Inert := by
  obtain ⟨fault, missing⟩ := RuleSet.find_of_not_text other
  refine ⟨fault, fun repo => ?_⟩
  rw [authoring, Authoring.run_mutate, RuleSet.deleteRule, missing, bind_error]
  rfl

theorem replaces_updateRule (id : Value) (edit : RuleEdit) :
    (updateRule id edit).Replaces id (·.withChanges edit) :=
  ⟨fun _ _ changed => Rule.id_of_withChanges changed, rfl⟩

theorem replaces_updateCondition (id index : Value) (changes : Fields) :
    ∃ change, (updateCondition id index changes).Replaces id change := by
  refine ⟨_, fun r s changed => ?_, rfl⟩
  obtain ⟨i, -, changed⟩ := bind_eq_ok.mp changed
  cases placed : r.conditions[i]? with
  | none =>
      rw [placed] at changed
      cases changed
  | some c =>
      rw [placed] at changed
      obtain ⟨d, -, changed⟩ := bind_eq_ok.mp changed
      exact Rule.id_of_withChanges changed

theorem replaces_removeCondition (id index : Value) :
    ∃ change, (removeCondition id index).Replaces id change := by
  refine ⟨_, fun r s changed => ?_, rfl⟩
  obtain ⟨i, -, changed⟩ := bind_eq_ok.mp changed
  exact Rule.id_of_withChanges changed

/-- The condition is made before the rule is looked for. -/
theorem addCondition_replaces_or_inert (id field operator value : Value) :
    (∃ change, (addCondition id field operator value).Replaces id change) ∨
      (addCondition id field operator value).Inert := by
  cases made : Condition.create field operator value with
  | ok c =>
      refine .inl ⟨fun r => r.withChanges (.ofConditions (r.conditions ++ [c])),
        fun _ _ changed => Rule.id_of_withChanges changed, ?_⟩
      simp only [authoring, RuleSet.addCondition, made, bind_ok]
  | error fault =>
      refine .inr ⟨fault, fun repo => ?_⟩
      rw [authoring, EStateM.run_bind, Authoring.run_mutate, RuleSet.addCondition, made, bind_error]

theorem replaces_or_inert_or_deletes {v : Value} (subject : command.subject? = some v) :
    (∃ change, command.Replaces v change) ∨ command.Inert ∨ command = .deleteRule v := by
  cases command <;> cases subject
  case updateRule edit => exact .inl ⟨_, replaces_updateRule v edit⟩
  case deleteRule => exact .inr (.inr rfl)
  case addCondition field operator value =>
    exact (addCondition_replaces_or_inert v field operator value).imp_right .inl
  case updateCondition index changes => exact .inl (replaces_updateCondition v index changes)
  case removeCondition index => exact .inl (replaces_removeCondition v index)

theorem confined_or_inert {v : Value} (subject : command.subject? = some v) :
    (∃ id act, v = .text id ∧ command.Confined id act) ∨ command.Inert := by
  by_cases named : ∃ t, v = .text t
  · obtain ⟨t, rfl⟩ := named
    rcases replaces_or_inert_or_deletes subject with ⟨change, replaces⟩ | inert | rfl
    · exact .inl ⟨t, _, rfl, replaces.confined⟩
    · exact .inr inert
    · exact .inl ⟨t, _, rfl, confined_deleteRule t⟩
  · have other : ∀ t, v ≠ .text t := fun t same => named ⟨t, same⟩
    rcases replaces_or_inert_or_deletes subject with ⟨change, replaces⟩ | inert | rfl
    · exact .inr (replaces.inert other)
    · exact .inr inert
    · exact .inr (inert_deleteRule other)

end Command

namespace Repository

variable {repo : Repository} {c d : Command}

/-- In either order the commands lead to the same repository, and neither sees of the other. -/
structure Commute (repo : Repository) (c d : Command) : Prop where
  state : (repo.step c).step d = (repo.step d).step c
  first : (repo.step d).answer c = repo.answer c
  second : (repo.step c).answer d = repo.answer d

theorem Commute.symm (commute : repo.Commute c d) : repo.Commute d c :=
  ⟨commute.state.symm, commute.second, commute.first⟩

theorem step_of_inert (inert : d.Inert) (repo : Repository) : repo.step d = repo := by
  obtain ⟨fault, fails⟩ := inert
  rw [step, fails]

theorem commute_of_inert (inert : d.Inert) : repo.Commute c d := by
  have stays := step_of_inert inert
  obtain ⟨fault, fails⟩ := inert
  have answers (r : Repository) : r.answer d = .error fault := by rw [answer, fails]
  exact ⟨by rw [stays, stays], by rw [stays], by rw [answers, answers]⟩

variable {act : Command.Act} {id : Text}

theorem step_of_confined (confined : c.Confined id act)
    (distinct : RuleSet.DistinctIds repo.ruleSet.rules) :
    repo.step c =
      match act (repo.ruleSet.rule? id) with
      | .ok (kept, _) => repo.commit (repo.ruleSet.write id kept)
      | .error _ => repo := by
  rw [step, confined.run repo distinct]
  cases act (repo.ruleSet.rule? id) <;> rfl

theorem answer_of_confined (confined : c.Confined id act)
    (distinct : RuleSet.DistinctIds repo.ruleSet.rules) :
    repo.answer c = (act (repo.ruleSet.rule? id)).map (·.2) := by
  rw [answer, confined.run repo distinct]
  cases act (repo.ruleSet.rule? id) <;> rfl

theorem fits_of_act (confined : c.Confined id act) {kept : Option Rule} {reply : Reply}
    (acted : act (repo.ruleSet.rule? id) = .ok (kept, reply)) : RuleSet.Fits id kept :=
  confined.fits _ _ _ (fun _ found => (RuleSet.mem_of_rule? found).2) acted

/-- After a command under one id the rules are distinct, and under another id stands what stood
    there. -/
theorem rule?_step_of_ne (confined : c.Confined id act)
    (distinct : RuleSet.DistinctIds repo.ruleSet.rules) {other : Text} (ne : other ≠ id) :
    RuleSet.DistinctIds (repo.step c).ruleSet.rules ∧
      (repo.step c).ruleSet.rule? other = repo.ruleSet.rule? other := by
  rw [step_of_confined confined distinct]
  cases acted : act (repo.ruleSet.rule? id) with
  | error fault => exact ⟨distinct, rfl⟩
  | ok made =>
      have fits := fits_of_act confined acted
      exact ⟨RuleSet.distinct_write distinct fits, RuleSet.rule?_write_of_ne fits ne⟩

theorem mem_step_of_ne {v : Value} (subject : c.subject? = some v)
    (distinct : RuleSet.DistinctIds repo.ruleSet.rules) {r : Rule}
    (present : r ∈ repo.ruleSet.rules) (ne : v ≠ .text r.id) : r ∈ (repo.step c).ruleSet.rules := by
  rcases Command.confined_or_inert subject with ⟨id, act, rfl, confined⟩ | inert
  · have other : r.id ≠ id := fun same => ne (by rw [same])
    obtain ⟨-, same⟩ := rule?_step_of_ne confined distinct other
    rw [RuleSet.rule?_of_mem distinct present] at same
    exact (RuleSet.mem_of_rule? same).1
  · rw [step_of_inert inert]
    exact present

theorem commute_of_confined {act' : Command.Act} {id' : Text} (first : c.Confined id act)
    (second : d.Confined id' act') (ne : id ≠ id')
    (distinct : RuleSet.DistinctIds repo.ruleSet.rules) : repo.Commute c d := by
  obtain ⟨distinctFirst, same'⟩ := rule?_step_of_ne first distinct ne.symm
  obtain ⟨distinctSecond, same⟩ := rule?_step_of_ne second distinct ne
  constructor
  case first =>
    rw [answer_of_confined first distinctSecond, answer_of_confined first distinct, same]
  case second =>
    rw [answer_of_confined second distinctFirst, answer_of_confined second distinct, same']
  case state =>
    rw [step_of_confined second distinctFirst, step_of_confined first distinctSecond, same, same',
      step_of_confined first distinct, step_of_confined second distinct]
    cases acted : act (repo.ruleSet.rule? id) with
    | error fault => rfl
    | ok made =>
        cases acted' : act' (repo.ruleSet.rule? id') with
        | error fault => rfl
        | ok made' =>
            exact congrArg repo.commit (RuleSet.write_comm (fits_of_act first acted)
              (fits_of_act second acted') ne.symm)

theorem Sound.commute {P : Rule → Prop} (sound : repo.Sound P) (edits : c.subject? ≠ none)
    (edits' : d.subject? ≠ none) (apart : c.subject? ≠ d.subject?) : repo.Commute c d := by
  obtain ⟨v, subject⟩ := Option.ne_none_iff_exists'.mp edits
  obtain ⟨v', subject'⟩ := Option.ne_none_iff_exists'.mp edits'
  rcases Command.confined_or_inert subject with ⟨id, act, rfl, first⟩ | inert
  · rcases Command.confined_or_inert subject' with ⟨id', act', rfl, second⟩ | inert
    · have ne : id ≠ id' := fun same => apart (by rw [subject, subject', same])
      exact commute_of_confined first second ne sound.rules.distinct
    · exact commute_of_inert inert
  · exact (commute_of_inert inert).symm

end Repository

/-- A command of a client. -/
structure Call (ι : Type) where
  client : ι
  command : Command

variable {ι : Type}

/-- Every call edits one rule, and different clients edit different rules. -/
structure Call.Apart (calls : List (Call ι)) : Prop where
  edits : ∀ x ∈ calls, x.command.subject? ≠ none
  apart : ∀ x ∈ calls, ∀ y ∈ calls, x.client ≠ y.client →
    x.command.subject? ≠ y.command.subject?

theorem Call.Apart.subset {calls others : List (Call ι)} (apart : Apart calls)
    (subset : others ⊆ calls) : Apart others :=
  ⟨fun x member => apart.edits x (subset member),
    fun x memberX y memberY => apart.apart x (subset memberX) y (subset memberY)⟩

theorem Repository.Sound.step_of_edit {repo : Repository} {call : Call ι}
    (sound : repo.Sound fun _ => True) (edits : call.command.subject? ≠ none) :
    (repo.step call.command).Sound fun _ => True :=
  sound.step (fun _ _ _ _ _ _ => trivial) (Command.respects_of_subject? edits)

variable [DecidableEq ι]

namespace Call

/-- The commands of a client in its own order. -/
def own (i : ι) (calls : List (Call ι)) : List Command :=
  (calls.filter (·.client = i)).map (·.command)

variable {calls later : List (Call ι)} {call : Call ι} {i : ι}

theorem own_cons : own i (call :: calls) =
    if call.client = i then call.command :: own i calls else own i calls := by
  simp only [own, List.filter_cons, decide_eq_true_eq]
  split <;> rfl

theorem own_append : own i (calls ++ later) = own i calls ++ own i later := by
  simp [own]

theorem own_eq_nil : own i calls = [] ↔ ∀ x ∈ calls, x.client ≠ i := by
  simp [own]

theorem mem_iff_mem_own : call ∈ calls ↔ call.command ∈ own call.client calls := by
  simp only [own, List.mem_map, List.mem_filter, decide_eq_true_eq]
  constructor
  · intro member
    exact ⟨call, ⟨member, rfl⟩, rfl⟩
  · intro made
    obtain ⟨⟨client, command⟩, ⟨member, rfl⟩, rfl⟩ := made
    exact member

theorem exists_first {command : Command} {commands : List Command}
    (first : own i calls = command :: commands) :
    ∃ front back, calls = front ++ ⟨i, command⟩ :: back ∧ ∀ x ∈ front, x.client ≠ i := by
  induction calls with
  | nil => cases first
  | cons x rest ih =>
      rw [own_cons] at first
      by_cases here : x.client = i
      · rw [if_pos here] at first
        cases here
        cases first
        exact ⟨[], rest, rfl, nofun⟩
      · rw [if_neg here] at first
        obtain ⟨front, back, rfl, others⟩ := ih first
        exact ⟨x :: front, back, rfl, List.forall_mem_cons.mpr ⟨here, others⟩⟩

end Call

namespace Repository

/-- The repository after calls, whoever made them. -/
def afterCalls (repo : Repository) (calls : List (Call ι)) : Repository :=
  repo.after (calls.map (·.command))

/-- What one client is answered. -/
def replies (i : ι) : Repository → List (Call ι) → List (Except Fault Reply)
  | _, [] => []
  | repo, call :: later =>
    if call.client = i then repo.answer call.command :: replies i (repo.step call.command) later
    else replies i (repo.step call.command) later

/-- The calls lead to the same end and give every client the same answers. -/
structure Alike (repo : Repository) (calls calls' : List (Call ι)) : Prop where
  state : repo.afterCalls calls = repo.afterCalls calls'
  replies : ∀ i, replies i repo calls = Repository.replies i repo calls'

variable {repo : Repository} {calls calls' : List (Call ι)} {x y : Call ι}

theorem Alike.refl (repo : Repository) (calls : List (Call ι)) : repo.Alike calls calls :=
  ⟨rfl, fun _ => rfl⟩

theorem Alike.trans {calls'' : List (Call ι)} (first : repo.Alike calls calls')
    (second : repo.Alike calls' calls'') : repo.Alike calls calls'' :=
  ⟨first.state.trans second.state, fun i => (first.replies i).trans (second.replies i)⟩

theorem Alike.cons (alike : (repo.step x.command).Alike calls calls') :
    repo.Alike (x :: calls) (x :: calls') := by
  constructor
  · exact alike.state
  · intro i
    simp only [Repository.replies, alike.replies i]

theorem alike_swap (commute : repo.Commute x.command y.command) (ne : x.client ≠ y.client) :
    repo.Alike (x :: y :: calls) (y :: x :: calls) := by
  constructor
  · simp only [afterCalls, List.map_cons, after, List.foldl_cons, commute.state]
  · intro i
    simp only [replies, commute.state, commute.first, commute.second]
    by_cases here : x.client = i
    · have there : y.client ≠ i := fun same => ne (here.trans same.symm)
      simp only [if_pos here, if_neg there]
    · simp only [if_neg here]

theorem alike_postponed {front back : List (Call ι)} (sound : repo.Sound fun _ => True)
    (apart : Call.Apart (front ++ x :: back)) (others : ∀ y ∈ front, y.client ≠ x.client) :
    repo.Alike (x :: front ++ back) (front ++ x :: back) := by
  induction front generalizing repo with
  | nil => exact .refl repo _
  | cons y front ih =>
      have member : x ∈ y :: front ++ x :: back := List.mem_append_right _ List.mem_cons_self
      have ne := others y List.mem_cons_self
      have edits := apart.edits y List.mem_cons_self
      have commute := sound.commute edits (apart.edits x member)
        (apart.apart y List.mem_cons_self x member ne)
      have later := ih (sound.step_of_edit edits) (apart.subset (List.subset_cons_self _ _))
        fun z inFront => others z (List.mem_cons_of_mem y inFront)
      exact (alike_swap commute.symm ne.symm).trans later.cons

/-- By induction on the one list of calls: the client whose call is its first has the same first
    call in the other list, where only calls of other clients stand in front of it. -/
theorem alike_of_own (sound : repo.Sound fun _ => True) (apart : Call.Apart calls)
    (same : ∀ i, Call.own i calls = Call.own i calls') : repo.Alike calls calls' := by
  induction calls generalizing repo calls' with
  | nil =>
      have none : calls' = [] := by
        apply List.eq_nil_iff_forall_not_mem.mpr
        intro call member
        exact Call.own_eq_nil.mp (same call.client).symm call member rfl
      rw [none]
      exact .refl repo []
  | cons x rest ih =>
      have first := same x.client
      rw [Call.own_cons, if_pos rfl] at first
      obtain ⟨front, back, rfl, others⟩ := Call.exists_first first.symm
      have subset : front ++ x :: back ⊆ x :: rest := by
        intro call member
        rw [Call.mem_iff_mem_own, same]
        exact Call.mem_iff_mem_own.mp member
      have remaining (i : ι) : Call.own i rest = Call.own i (front ++ back) := by
        have whole := same i
        simp only [Call.own_append, Call.own_cons] at whole ⊢
        by_cases here : x.client = i
        · have none : Call.own i front = [] := Call.own_eq_nil.mpr (here ▸ others)
          simpa [here, none] using whole
        · simpa only [if_neg here] using whole
      have edits := apart.edits x List.mem_cons_self
      have later := ih (sound.step_of_edit edits) (apart.subset (List.subset_cons_self x rest))
        remaining
      exact later.cons.trans (alike_postponed sound (apart.subset subset) others)

end Repository

/-- In every repository that is arrived at, edits of different rules commute: in either order they
    lead to the same repository, and each is answered the same, with the same result or the same
    fault. So however the calls of clients that edit different rules are interleaved, they lead to
    the same repository and every client is answered the same. -/
theorem edits_of_different_rules_commute {repo : Repository}
    (reached : repo.Reachable RuleSet.Constructed Command.Constructed) :
    (∀ (c d : Command) (a b : Value), c.subject? = some a → d.subject? = some b → a ≠ b →
      repo.Commute c d) ∧
    ∀ (ι : Type) [DecidableEq ι] (calls calls' : List (Call ι)), Call.Apart calls →
      (∀ i, Call.own i calls = Call.own i calls') → repo.Alike calls calls' := by
  have sound := reached.constructed
  constructor
  · intro c d a b first second ne
    apply sound.commute
    · rw [first]
      exact Option.some_ne_none a
    · rw [second]
      exact Option.some_ne_none b
    · rw [first, second]
      exact fun same => ne (Option.some.inj same)
  · intro ι _ calls calls' apart same
    exact Repository.alike_of_own sound apart same

/-- One client deletes the first of two rules and tries to edit it afterwards, another one edits the
    second rule meanwhile. -/
theorem edits_of_two_clients_interleave :
    let sales : Condition := ⟨"queue", "EQUALS", some "sales", [], some "sales"⟩
    let first : Rule := ⟨"first", "First", 10, "unit-1", [sales], .all⟩
    let second : Rule := ⟨"second", "Second", 5, "unit-2", [sales], .any⟩
    let repo := Repository.ofRuleSet ⟨"1.0", "none", [first, second]⟩
    let delete : Command := .deleteRule (.text "first")
    let edit : Command := .removeCondition (.text "first") (.int 0)
    let add : Command :=
      .addCondition (.text "second") (.text "agent") (.text "EQUALS") (.text "Ann")
    let remove : Command := .removeCondition (.text "second") (.int 0)
    repo.Commute delete add ∧
      repo.Alike [⟨0, delete⟩, ⟨0, edit⟩, ⟨1, add⟩, ⟨1, remove⟩]
        [⟨1, add⟩, ⟨0, delete⟩, ⟨1, remove⟩, (⟨0, edit⟩ : Call (Fin 2))] := by
  intro sales first second repo delete edit add remove
  have distinct : RuleSet.DistinctIds [first, second] := by
    unfold RuleSet.DistinctIds
    decide
  have reached : repo.Reachable RuleSet.Constructed Command.Constructed :=
    .start ⟨_, _, _, RuleSet.create_of_distinct distinct⟩
  obtain ⟨commute, alike⟩ := edits_of_different_rules_commute reached
  have ne : Value.text "first" ≠ .text "second" :=
    fun same => absurd (Value.text.inj same) (by decide)
  refine ⟨commute delete add _ _ rfl rfl ne, alike (Fin 2) _ _ ?_ ?_⟩
  · constructor
    · simp [delete, edit, add, remove, Command.subject?]
    · simp [delete, edit, add, remove, Command.subject?, ne, ne.symm]
  · intro i
    match i with
    | 0 => rfl
    | 1 => rfl

end UnitRouting

import UnitRouting.Proofs.Service.Failure

/-! # States of the service

Whatever requests ask for, the service does by commands of authors. So what holds of every
repository that authors arrive at holds of every state of the service. -/

namespace UnitRouting

open Outcome

/-- Authors arrive at the repository. -/
abbrev Repository.Authored (repo : Repository) : Prop :=
  repo.Reachable RuleSet.Loaded Command.Authored

namespace Handling

variable {α β : Type} {work : Handling α} {f : α → Handling β} {repo : Repository}

/-- The repository that work leaves behind, whether or not it meets a problem. -/
def leaves (work : Handling α) (repo : Repository) : Repository :=
  match work.run repo with
  | .ok _ next | .error _ next => next

/-- The work is done by commands of authors. -/
def Authors (work : Handling α) : Prop :=
  ∀ repo : Repository, repo.Authored → (work.leaves repo).Authored

theorem authors_of_reads {known : α → Prop} (reads : Reads known work) : Authors work := by
  intro repo arrived
  unfold leaves
  rcases (reads repo).ok_or_error with ⟨a, _, run, -, rfl⟩ | ⟨problem, run, -⟩
  · rw [run]
    exact arrived
  · rw [run]
    exact arrived

theorem Authors.bind (first : Authors work) (next : ∀ a, Authors (f a)) : Authors (work >>= f) := by
  intro repo arrived
  have between := first repo arrived
  unfold leaves at between ⊢
  rw [EStateM.run_bind]
  cases run : work.run repo with
  | ok a state =>
      rw [run] at between
      exact next a state between
  | error problem state =>
      rw [run] at between
      exact between

theorem authors_pure (a : α) : Authors (pure a : Handling α) := fun _ arrived => arrived

theorem authors_throw (problem : Problem) : Authors (throw problem : Handling α) :=
  fun _ arrived => arrived

theorem authors_get : Authors (get : Handling Repository) := fun _ arrived => arrived

theorem Authors.discard (authors : Authors work) : Authors (discard work) :=
  authors.bind fun _ => authors_pure _

theorem leaves_given {result : Except Problem α} {a : α} (given : result = .ok a)
    (repo : Repository) :
    ((MonadExcept.ofExcept result : Handling α) >>= f).leaves repo = (f a).leaves repo := by
  rw [given]
  rfl

/-- What is found out first may be used to tell which commands follow. -/
theorem authors_given {result : Except Problem α}
    (later : ∀ a, result = .ok a → Authors (f a)) :
    Authors ((MonadExcept.ofExcept result : Handling α) >>= f) := by
  cases result with
  | ok a => exact later a rfl
  | error problem => exact fun _ arrived => arrived

end Handling

namespace Service

open Handling

theorem authors_tell (document : Value) : Authors (tell document) := authors_pure _

theorem leaves_execute (command : Command) (repo : Repository) :
    (execute command).leaves repo = repo.step command := by
  rw [leaves, execute, EStateM.run_adaptExcept, Repository.step]
  cases command.authoring.run repo <;> rfl

theorem authors_execute {command : Command} (authored : command.Authored) :
    Authors (execute command) := by
  intro repo arrived
  rw [leaves_execute]
  exact .step arrived authored

theorem leaves_author (status : Nat) (command : Command) (repo : Repository) :
    (author status command).leaves repo = repo.step command := by
  rw [← leaves_execute, leaves, leaves, author, EStateM.run_bind]
  cases (execute command).run repo with
  | ok reply next => cases reply <;> rfl
  | error problem next => rfl

theorem authors_author (status : Nat) {command : Command} (authored : command.Authored) :
    Authors (author status command) := by
  intro repo arrived
  rw [leaves_author]
  exact .step arrived authored

theorem authored_ofFields (fields : Fields) : (RuleEdit.ofFields fields none).Authored := by
  intro entries handed
  cases handed

theorem authors_changeSetting (fields : Fields) (name : Text) {command : Value → Command}
    (authored : ∀ v, (command v).Authored) : Authors (changeSetting fields name command) := by
  unfold changeSetting
  split
  · exact (authors_execute (authored _)).discard
  · exact authors_pure _

theorem authors_replaceConfig (body : Bytes) : Authors (replaceConfig body) := by
  apply authors_given
  intro rs parsed
  have authored : (Command.replaceAll rs).Authored := ⟨_, mapError_eq_ok.mp parsed⟩
  apply (authors_execute authored).discard.bind
  intro _
  exact authors_get.bind fun _ => authors_tell _

theorem authors_changeSettings (body : Bytes) : Authors (handle body .settings .put) := by
  apply authors_given
  intro fields _
  have unit : Authors (changeSetting fields "default_unit_id" .setDefaultUnitId) :=
    authors_changeSetting fields _ fun _ => trivial
  have version : Authors (changeSetting fields "version" .setVersion) :=
    authors_changeSetting fields _ fun _ => trivial
  apply (unit.bind fun _ => version).bind
  intro _
  exact authors_get.bind fun _ => authors_tell _

theorem authors_move (id : Text) (body : Bytes) : Authors (move id body) := by
  apply authors_given
  intro fields _
  dsimp only
  split
  · have moved : Authors (execute (.moveRule (.text id) (fields.getOrNull "direction"))) :=
      authors_execute trivial
    apply moved.discard.bind
    intro _
    exact authors_get.bind fun _ => authors_tell _
  · exact authors_throw _

theorem authors_handle (body : Bytes) (resource : Resource) (method : Method) :
    Authors (handle body resource method) := by
  cases changes : resource.changedBy method with
  | false => exact authors_of_reads (reads_handle body changes)
  | true =>
      cases resource with
      | config =>
          cases method with
          | put => exact authors_replaceConfig body
          | _ => cases changes
      | settings =>
          cases method with
          | put => exact authors_changeSettings body
          | _ => cases changes
      | rules =>
          cases method with
          | post =>
              exact authors_given fun fields _ => authors_author _ (authored_ofFields fields)
          | _ => cases changes
      | rule id =>
          cases method with
          | put =>
              exact authors_given fun fields _ => authors_author _ (authored_ofFields fields)
          | delete =>
              have deleted : Authors (execute (.deleteRule (.text id))) := authors_execute trivial
              exact deleted.discard.bind fun _ => authors_tell _
          | _ => cases changes
      | ruleMove id =>
          cases method with
          | post => exact authors_move id body
          | _ => cases changes
      | conditions id =>
          cases method with
          | post => exact authors_given fun fields _ => authors_author _ trivial
          | _ => cases changes
      | condition id numeral =>
          cases method with
          | put =>
              exact authors_given fun index _ => authors_given fun fields _ =>
                authors_author _ trivial
          | delete => exact authors_given fun index _ => authors_author _ trivial
          | _ => cases changes
      | _ => cases method <;> cases changes

variable {repo : Repository}

theorem serve_fst (repo : Repository) (path : Text) (body : Bytes) (resource : Resource)
    (method : Method) :
    (serve repo path body resource method).1 = (handle body resource method).leaves repo := by
  unfold serve leaves
  cases (handle body resource method).run repo <;> rfl

theorem authored_attend (arrived : repo.Authored) (path : Text) (body : Bytes) (method : Method)
    (destination : Destination) : (attend repo path body method destination).1.Authored := by
  have served (method : Method) (resource : Resource) :
      (serve repo path body resource method).1.Authored := by
    rw [serve_fst]
    exact authors_handle body resource method repo arrived
  cases destination with
  | found resource =>
      cases method with
      | options => exact arrived
      | _ => exact served _ resource
  | _ => exact arrived

end Service

namespace Repository

theorem authored_ofFile? {file : Option Bytes} {repo : Repository}
    (opened : ofFile? file = .ok repo) : repo.Authored := by
  cases file with
  | none =>
      cases opened
      exact .start (.inl rfl)
  | some bytes =>
      simp only [ofFile?] at opened
      split at opened
      · obtain ⟨rs, parsed, rfl⟩ := map_eq_ok.mp opened
        exact .start (.inr ⟨_, parsed⟩)
      · cases opened

/-- The states of the service are repositories that authors arrive at. -/
theorem Served.authored {repo : Repository} (served : repo.Served) : repo.Authored := by
  induction served with
  | start opened => exact authored_ofFile? opened
  | respond before request ih => exact Service.authored_attend ih _ _ _ _

end Repository

end UnitRouting

import UnitRouting.Proofs.Repository.Reachable
import UnitRouting.Proofs.Service.Handle
import UnitRouting.Service.Respond

/-! # What fails changes nothing

A command that meets a fault leaves the repository as it was, the counter included, so the rest of a
run goes on as if it had not been there. The same holds of requests to the service: what is answered
with an error changed nothing, and only some routes change anything at all. -/

namespace UnitRouting

open Outcome

/-- What commands answer, one after the other. -/
def Repository.answers (repo : Repository) : List Command → List (Except Fault Reply)
  | [] => []
  | command :: later => repo.answer command :: (repo.step command).answers later

/-- The repositories of the service: the one that it starts with, and those after requests. -/
inductive Repository.Served : Repository → Prop where
  | start {file : Option Bytes} {repo : Repository} (opened : ofFile? file = .ok repo) : Served repo
  | respond {repo : Repository} (before : Served repo) (request : Request) :
      Served (repo.respond request).1

theorem Repository.sound_ofFile? {file : Option Bytes} {repo : Repository}
    (opened : ofFile? file = .ok repo) : repo.Sound Rule.Printable := by
  cases file with
  | none =>
      cases opened
      exact sound_ofRuleSet (RuleSet.sound_empty Rule.Printable)
  | some bytes =>
      simp only [ofFile?] at opened
      split at opened
      · obtain ⟨rs, parsed, rfl⟩ := map_eq_ok.mp opened
        exact sound_ofRuleSet (RuleSet.printable_of_parse parsed)
      · cases opened

/-- What came of a request: nothing was changed, or the request is one that may change something and
    what it did is told in a document. -/
inductive Service.Settled (repo : Repository) (changing : Prop) : Repository × Response → Prop where
  | unchanged (response : Response) : Settled repo changing (repo, response)
  | done {next : Repository} {success : Success} (may : changing) (told : Done success next)
      (sound : next.Sound Rule.Printable) :
      Settled repo changing (next, ⟨success.status, .json success.document⟩)

theorem Service.Settled.imp {repo : Repository} {changing changing' : Prop}
    {answered : Repository × Response} (settled : Settled repo changing answered)
    (weaker : changing → changing') : Settled repo changing' answered := by
  cases settled with
  | unchanged response => exact .unchanged response
  | done may told sound => exact .done (weaker may) told sound

theorem Destination.ofPath?_of_find {method : Method} {path : Text} {resource : Resource}
    (led : find method path = .found resource) : Resource.ofPath? path = some resource := by
  unfold find at led
  split at led
  · next named =>
      split at led
      · cases led
        exact named
      · cases led
  · split at led
    · split at led <;> cases led
    · cases led

namespace Service

variable {repo : Repository}

theorem settled_serve (sound : repo.Sound Rule.Printable) (path : Text) (body : Bytes)
    (resource : Resource) (method : Method) :
    Settled repo (resource.changedBy method = true) (serve repo path body resource method) := by
  unfold serve
  cases changes : resource.changedBy method with
  | false =>
      rcases (reads_handle body changes repo).ok_or_error with ⟨_, _, run, -, rfl⟩ | ⟨_, run, -⟩
      · rw [run]
        exact .unchanged _
      · rw [run]
        exact .unchanged _
  | true =>
      rcases (leads_handle body changes repo sound).ok_or_error with
        ⟨_, _, run, told, next⟩ | ⟨_, run, -⟩
      · rw [run]
        exact .done rfl told next
      · rw [run]
        exact .unchanged _

theorem settled_attend (sound : repo.Sound Rule.Printable) {path : Text} (body : Bytes)
    {method : Method} {resource : Resource} (other : method ≠ .head) :
    Settled repo (resource.changedBy method = true)
      (attend repo path body method (.found resource)) := by
  cases method with
  | options => exact .unchanged _
  | head => exact absurd rfl other
  | _ => exact settled_serve sound path body resource _

theorem attend_head (sound : repo.Sound Rule.Printable) (path : Text) (body : Bytes)
    (destination : Destination) : (attend repo path body .head destination).1 = repo := by
  cases destination with
  | found resource =>
      have inert : resource.changedBy .get = false := by cases resource <;> rfl
      have settled := settled_serve sound path body resource .get
      rw [inert] at settled
      change (serve repo path body resource .get).1 = repo
      generalize serve repo path body resource .get = answered at settled ⊢
      cases settled with
      | unchanged response => rfl
      | done may => cases may
  | _ => rfl

theorem settled_respond (sound : repo.Sound Rule.Printable) (request : Request) :
    Settled repo request.Mutating (repo.respond request) := by
  unfold Repository.respond
  dsimp only
  by_cases head : Method.ofName request.method = .head
  · rw [head, attend_head sound]
    exact .unchanged _
  · rw [if_neg head]
    cases led : Destination.find (Method.ofName request.method) (Path.ofTarget request.target) with
    | found resource =>
        have named := Destination.ofPath?_of_find led
        exact (settled_attend sound request.body head).imp (Request.mutating_of_changedBy named)
    | _ => exact .unchanged _

end Service

theorem Repository.Served.sound {repo : Repository} (served : repo.Served) :
    repo.Sound Rule.Printable := by
  induction served with
  | start opened => exact sound_ofFile? opened
  | @respond repo before request ih =>
      have settled := Service.settled_respond ih request
      generalize repo.respond request = answered at settled ⊢
      cases settled with
      | unchanged response => exact ih
      | done may told sound => exact sound

/-- A command that meets a fault leaves no trace: the repository is as before, and whatever comes
    later leads where it would have led and answers what it would have answered. A request that is
    answered with an error, or that is not for one of the routes that change things, leaves the
    repository as before too; and where one was changed, telling so does not fail, unless a rule has
    a number with as many digits as numerals may have. -/
theorem failure_leaves_no_trace :
    (∀ repo : Repository, repo.Reachable RuleSet.Constructed Command.Constructed →
      ∀ command fault, repo.answer command = .error fault →
        repo.step command = repo ∧
        ∀ later, repo.after (command :: later) = repo.after later ∧
          repo.answers (command :: later) = .error fault :: repo.answers later) ∧
    ∀ repo : Repository, repo.Served → ∀ request : Request,
      (400 ≤ (repo.respond request).2.status ∨ ¬ request.Mutating →
        (repo.respond request).1 = repo) ∧
      ((repo.respond request).1 ≠ repo → ∀ document,
        (repo.respond request).2.content = .json document →
          (repo.respond request).1.Shows document) := by
  refine ⟨fun repo reached command fault failed => ?_, fun repo served request => ?_⟩
  · have lasting : RuleSet.Lasting fun _ => True := fun _ _ _ _ _ _ => trivial
    have sound : repo.Sound fun _ => True :=
      reached.sound lasting (fun _ given => given.sound) fun _ given => given.respects
    have same := (sound.answer_error failed).1
    refine ⟨same, fun later => ⟨?_, ?_⟩⟩
    · rw [Repository.after, List.foldl_cons, same, Repository.after]
    · rw [Repository.answers, failed, same]
  · have settled := Service.settled_respond served.sound request
    generalize repo.respond request = answered at settled ⊢
    cases settled with
    | unchanged response => exact ⟨fun _ => rfl, fun changed => absurd rfl changed⟩
    | @done next success may told sound =>
        refine ⟨?_, ?_⟩
        · rintro (failed | never)
          · exact absurd told.1 (Nat.not_lt.mpr failed)
          · exact absurd may never
        · rintro - document ⟨⟩
          exact told.2

/-- A rule is deleted that is not there, then a rule is posted and one deleted that is not there. -/
theorem deleting_no_rule_leaves_no_trace :
    let missing : Command := .deleteRule (.text "rule-9")
    let posted := (Repository.empty.respond ⟨"POST", "/api/rules", []⟩).1
    let deletion : Request := ⟨"DELETE", "/api/rules/rule-9", []⟩
    Repository.empty.answers [missing, .setVersion (.text "2")] =
        .error (.ruleNotFound "rule-9") ::
          Repository.empty.answers [.setVersion (.text "2")] ∧
      (posted.respond deletion).2.status = 404 ∧ (posted.respond deletion).1 = posted := by
  intro missing posted deletion
  have failed : Repository.empty.answer missing = .error (.ruleNotFound "rule-9") := rfl
  have opened : Repository.ofFile? none = .ok .empty := rfl
  have served : posted.Served := .respond (.start opened) _
  have status : (posted.respond deletion).2.status = 404 := by decide +kernel
  refine ⟨?_, status, ?_⟩
  · have reached : Repository.empty.Reachable RuleSet.Constructed Command.Constructed :=
      .start ⟨_, _, [], rfl⟩
    exact ((failure_leaves_no_trace.1 _ reached missing _ failed).2 _).2
  · exact (failure_leaves_no_trace.2 posted served deletion).1
      (.inl (by rw [status]; decide))

end UnitRouting

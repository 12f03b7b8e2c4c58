import UnitRouting.Service.Handle
import UnitRouting.Service.Message
import UnitRouting.Text.File

/-! # The service

Answers requests over a repository. A request is led to its resource and handled there; what the
client is told depends on the outcome and on whether the path is one of the interface. -/

namespace UnitRouting

namespace Service

/-- Paths under the interface are answered in JSON, problems included. -/
def isUnderApi (path : Text) : Bool := (Text.ofString "/api/").isPrefixOf path

/-- The answer that tells a problem. -/
def problemResponse (path : Text) (problem : Problem) : Response where
  status := problem.status
  content :=
    if isUnderApi path then .json (.object [("error", .text problem.message)]) else .html

/-- Does what a method asks of a resource. -/
def serve (repo : Repository) (path : Text) (body : Bytes) (resource : Resource) (method : Method) :
    Repository × Response :=
  match (handle body resource method).run repo with
  | .ok success next => (next, ⟨success.status, .json success.document⟩)
  | .error problem next => (next, problemResponse path problem)

/-- Does what a method asks of a destination; `HEAD` asks what `GET` asks. -/
def attend (repo : Repository) (path : Text) (body : Bytes) (method : Method) :
    Destination → Repository × Response
  | .found resource =>
    match method with
    | .options => (repo, ⟨200, .html⟩)
    | .head => serve repo path body resource .get
    | _ => serve repo path body resource method
  | .moved => (repo, ⟨308, .html⟩)
  | .methodNotAllowed => (repo, problemResponse path .methodNotAllowed)
  | .missing => (repo, problemResponse path .missing)

end Service

open Service in
/-- Answers a request. -/
def Repository.respond (repo : Repository) (request : Request) : Repository × Response :=
  let method := Method.ofName request.method
  let path := Path.ofTarget request.target
  let (next, response) := attend repo path request.body method (Destination.find method path)
  (next, if method = .head then response.head else response)

/-- Answers requests one after the other. -/
def Repository.respondAll (repo : Repository) : List Request → List Response
  | [] => []
  | request :: rest =>
    let (next, response) := repo.respond request
    response :: next.respondAll rest

/-- The repository that the service starts with: that of a configuration file, if there is one. -/
def Repository.ofFile? (file : Option Bytes) : Except Fault Repository :=
  match file with
  | none => .ok .empty
  | some bytes =>
    match Text.ofFile bytes with
    | .ok t => (RuleSet.parse t).map .ofRuleSet
    | .error _ => .error .undecodable

end UnitRouting

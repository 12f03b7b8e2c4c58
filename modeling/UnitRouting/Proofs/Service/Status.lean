import UnitRouting.Proofs.Number.Numeral
import UnitRouting.Proofs.Rule.Placed
import UnitRouting.Proofs.Service.Failure

/-! # What authors are answered

A request that authors rules or settings is carried out or refused, whatever its body is. The service
itself fails on two kinds of them only: on a move by a floating point number that would swap two
rules, and on an index in the path with more digits than are read. -/

namespace UnitRouting

open Outcome
open Repository (Ends)

/-- The status of a request that is carried out, or that the client has to mend. -/
def OrdinaryStatus (status : Nat) : Prop := status = 200 ∨ status = 201 ∨ status = 400 ∨ status = 404

theorem OrdinaryStatus.ne_500 {status : Nat} (ordinary : OrdinaryStatus status) : status ≠ 500 := by
  rintro rfl
  unfold OrdinaryStatus at ordinary
  omega

/-- Proper arguments only lead to faults that authors are told about. -/
theorem Fault.Expected.ordinary {proper : Prop} {fault : Fault} (expected : fault.Expected proper)
    (holds : proper) : OrdinaryStatus (Problem.failed fault).status := by
  cases expected with
  | refused => exact .inr (.inr (.inl rfl))
  | ruleNotFound | conditionNotFound => exact .inr (.inr (.inr rfl))
  | numeralTooLong improper | wrongKind improper => exact absurd holds improper

namespace Handling

variable {α β : Type} {work : Handling α} {f : α → Handling Success} {repo : Repository}
  {good : α → Repository → Prop}

/-- The status that the outcome of work is answered with. -/
def status : EStateM.Result Problem Repository Success → Nat
  | .ok success _ => success.status
  | .error problem _ => problem.status

/-- From a repository, the work is answered with an ordinary status. -/
def Answers (work : Handling Success) (repo : Repository) : Prop :=
  OrdinaryStatus (status (work.run repo))

/-- Problems are ordinary ones. -/
def Ordinary (problem : Problem) : Prop := OrdinaryStatus problem.status

theorem answers_bind (first : Ends Ordinary good repo (work.run repo))
    (later : ∀ a next, good a next → Answers (f a) next) : Answers (work >>= f) repo := by
  unfold Answers
  rw [EStateM.run_bind]
  rcases first.ok_or_error with ⟨a, next, run, here⟩ | ⟨problem, run, ordinary⟩
  · rw [run]
    exact later a next here
  · rw [run]
    exact ordinary

theorem ends_ofExcept {result : Except Problem α}
    (ordinary : ∀ problem, result = .error problem → Ordinary problem) :
    Ends Ordinary (fun a next => result = .ok a ∧ next = repo) repo
      ((MonadExcept.ofExcept result : Handling α).run repo) := by
  rw [Authoring.run_ofExcept]
  cases result with
  | ok a => exact .ok ⟨rfl, rfl⟩
  | error problem => exact .error (ordinary problem rfl)

theorem answers_given {result : Except Problem α} {a : α} (given : result = .ok a)
    (later : Answers (f a) repo) : Answers (MonadExcept.ofExcept result >>= f) repo := by
  unfold Answers
  rw [given]
  exact later

theorem ends_discard (first : Ends Ordinary good repo (work.run repo)) :
    Ends Ordinary (fun _ _ => True) repo ((discard work).run repo) := by
  rw [discard_eq, EStateM.run_bind]
  rcases first.ok_or_error with ⟨a, next, run, -⟩ | ⟨problem, run, ordinary⟩
  · rw [run]
    exact .ok trivial
  · rw [run]
    exact .error ordinary

theorem Surely.ends (surely : Surely (fun _ => True) good work) (sound : repo.Sound Rule.Printable) :
    Ends Ordinary good repo (work.run repo) := by
  obtain ⟨a, next, run, here, -⟩ := surely repo sound trivial
  rw [run]
  exact .ok here

theorem answers_tell (document : Value) : Answers (Service.tell document) repo := .inl rfl

theorem answers_get_tell (document : Repository → Value) :
    Answers (do Service.tell (document (← get))) repo := .inl rfl

end Handling

namespace Service

open Handling

variable {P : Rule → Prop} {repo : Repository} {body : Bytes}

theorem ordinary_bodyFields (problem : Problem) (failed : bodyFields body = .error problem) :
    Ordinary problem := by
  unfold bodyFields at failed
  split at failed
  · cases failed
  · split at failed <;> cases failed <;> exact .inr (.inr (.inl rfl))

theorem ordinary_supportedFields {supported : List Text} (problem : Problem)
    (failed : supportedFields supported body = .error problem) : Ordinary problem := by
  rcases bind_eq_error.mp failed with unread | ⟨fields, -, refused⟩
  · exact ordinary_bodyFields problem unread
  · split at refused
    · cases refused
    · cases refused
      exact .inr (.inr (.inl rfl))

theorem unknown_of_supportedFields {supported : List Text} {fields : Fields}
    (read : supportedFields supported body = .ok fields) : fields.unknown supported = [] := by
  simp only [supportedFields, bind_eq_ok] at read
  obtain ⟨given, -, read⟩ := read
  split at read
  · next none =>
      cases read
      exact none
  · cases read

theorem answers_supportedFields {supported : List Text} {f : Fields → Handling Success}
    (later : ∀ fields, supportedFields supported body = .ok fields → Answers (f fields) repo) :
    Answers (MonadExcept.ofExcept (supportedFields supported body) >>= f) repo := by
  apply answers_bind (ends_ofExcept ordinary_supportedFields)
  rintro fields _ ⟨read, rfl⟩
  exact later fields read

theorem ends_execute (sound : repo.Sound P) {command : Command} (proper : command.Proper) :
    Ends Ordinary (fun _ _ => True) repo ((execute command).run repo) := by
  rw [execute, EStateM.run_adaptExcept]
  cases run : command.authoring.run repo with
  | ok reply next => exact .ok trivial
  | error fault next =>
      have failed : repo.answer command = .error fault := by rw [Repository.answer, run]
      obtain ⟨same, expected⟩ := sound.answer_expected failed
      rw [Repository.step, run] at same
      subst same
      exact .error (expected.ordinary proper)

theorem answers_author (sound : repo.Sound P) {status : Nat} (success : status = 200 ∨ status = 201)
    {command : Command} (proper : command.Proper) : Answers (author status command) repo := by
  have ordinary : OrdinaryStatus status := by
    unfold OrdinaryStatus
    omega
  apply answers_bind (ends_execute sound proper)
  intro reply next _
  cases reply <;> exact ordinary

theorem proper_ofFields {fields : Fields} (fits : Value.FitsFields fields) :
    (RuleEdit.ofFields fields none).Proper where
  name _ found := Value.fits_of_get? fits found
  priority _ found := Value.fits_of_get? fits found
  unitId _ found := Value.fits_of_get? fits found
  combinator _ found := Value.fits_of_get? fits found
  conditions := nofun

theorem answers_changeSettings (sound : repo.Sound Rule.Printable) (body : Bytes) :
    Answers (handle body .settings .put) repo := by
  apply answers_supportedFields
  intro fields read
  apply answers_bind ((surely_changeSettings (fits_of_supportedFields read)).ends sound)
  intro _ next _
  exact answers_get_tell fun repo => settingsDocument repo.ruleSet

theorem answers_addRule (sound : repo.Sound P) (body : Bytes) :
    Answers (handle body .rules .post) repo := by
  apply answers_supportedFields
  intro fields read
  apply answers_author sound (.inr rfl)
  exact ⟨proper_ofFields (fits_of_supportedFields read), unknown_of_supportedFields read⟩

theorem answers_updateRule (sound : repo.Sound P) (body : Bytes) (id : Text) :
    Answers (handle body (.rule id) .put) repo := by
  apply answers_supportedFields
  intro fields read
  apply answers_author sound (.inl rfl)
  exact ⟨trivial, proper_ofFields (fits_of_supportedFields read)⟩

theorem answers_deleteRule (sound : repo.Sound P) (body : Bytes) (id : Text) :
    Answers (handle body (.rule id) .delete) repo := by
  have proper : (Command.deleteRule (.text id)).Proper := trivial
  apply answers_bind (ends_discard (ends_execute sound proper))
  intro _ next _
  exact answers_tell _

theorem answers_addCondition (sound : repo.Sound P) (body : Bytes) (id : Text) :
    Answers (handle body (.conditions id) .post) repo := by
  apply answers_supportedFields
  intro fields _
  exact answers_author sound (.inr rfl) trivial

theorem conditionIndex_of_decimal {numeral : Text}
    (decimal : ∀ c ∈ numeral, c.isDecimal = true) (nonempty : numeral ≠ []) :
    (numeralLimit < numeral.length ∧ conditionIndex numeral = .error .numeralTooLong) ∨
      (¬ numeralLimit < numeral.length ∧
        ∃ n : Int, conditionIndex numeral = .ok (.int n) ∧ n.natAbs < numeralBound) := by
  have unread := Numeral.int?_eq_none_of_decimal decimal nonempty
  unfold conditionIndex
  cases read : Numeral.int? numeral with
  | none => exact .inl ⟨unread.mp read, rfl⟩
  | some n =>
      refine .inr ⟨?_, n, rfl, Numeral.int?_fits read⟩
      intro long
      rw [unread.mpr long] at read
      cases read

theorem answers_condition (sound : repo.Sound P) (body : Bytes) (id : Text) {numeral : Text} {n : Int}
    (read : conditionIndex numeral = .ok (.int n)) (fits : n.natAbs < numeralBound) :
    Answers (handle body (.condition id numeral) .put) repo ∧
      Answers (handle body (.condition id numeral) .delete) repo := by
  constructor
  · apply answers_given read
    apply answers_supportedFields
    intro fields _
    exact answers_author sound (.inl rfl) ⟨trivial, fits, rfl⟩
  · apply answers_given read
    exact answers_author sound (.inl rfl) ⟨trivial, fits, rfl⟩

/-- The body asks for a move by a floating point number that leads to a position in the list, where
    none is expected but an integer. -/
def AsksFloatMove (repo : Repository) (body : Bytes) (id : Text) : Prop :=
  ∃ fields x i r, bodyFields body = .ok fields ∧ Fields.get? "direction" fields = some (.float x) ∧
    (x.toInt? = some 1 ∨ x.toInt? = some (-1)) ∧ repo.ruleSet.rules[i]? = some r ∧ r.id = id ∧
    RuleSet.target? i repo.ruleSet.rules.length (.float x) = .error .wrongKind

theorem isDirection_float {x : Double} :
    isDirection (.float x) = true ↔ x.toInt? = some 1 ∨ x.toInt? = some (-1) := by
  simp only [isDirection, Bool.or_eq_true, beq_iff_eq]

theorem run_execute_move (id direction : Value) (repo : Repository) :
    (execute (.moveRule id direction)).run repo =
      match repo.ruleSet.moveRule id direction with
      | .ok next => .ok (.ofOrder next) (repo.commit next)
      | .error fault => .error (.failed fault) repo := by
  rw [execute, EStateM.run_adaptExcept, Command.authoring, Authoring.run_mutate]
  cases repo.ruleSet.moveRule id direction <;> rfl

theorem status_of_asksFloatMove (distinct : RuleSet.DistinctIds repo.ruleSet.rules) {id : Text}
    (asks : AsksFloatMove repo body id) : status ((move id body).run repo) = 500 := by
  obtain ⟨fields, x, i, r, read, given, one, placed, same, led⟩ := asks
  have direction : fields.getOrNull "direction" = .float x := by
    rw [Fields.getOrNull, given, Option.getD_some]
  have moved : repo.ruleSet.moveRule (.text id) (.float x) = .error .wrongKind :=
    (RuleSet.moveRule_eq_error distinct).mpr (.inr ⟨i, r, placed, same, led⟩)
  simp only [move, EStateM.run_bind, Authoring.run_ofExcept, read, direction,
    isDirection_float.mpr one, if_true, discard_eq, run_execute_move, moved]
  rfl

theorem answers_move (distinct : RuleSet.DistinctIds repo.ruleSet.rules) {id : Text}
    (whole : ¬ AsksFloatMove repo body id) : Answers (move id body) repo := by
  apply answers_bind (ends_ofExcept ordinary_bodyFields)
  rintro fields _ ⟨read, same⟩
  rw [same]
  dsimp only
  split
  · next accepted =>
      have first : Ends Ordinary (fun _ _ => True) repo
          ((execute (.moveRule (.text id) (fields.getOrNull "direction"))).run repo) := by
        rw [run_execute_move]
        cases moved : repo.ruleSet.moveRule (.text id) (fields.getOrNull "direction") with
        | ok next => exact .ok trivial
        | error fault =>
            rcases (RuleSet.moveRule_eq_error distinct).mp moved with
              ⟨rfl, -⟩ | ⟨i, r, placed, same, led⟩
            · exact .error (.inr (.inr (.inr rfl)))
            · cases given : Fields.get? "direction" fields with
              | none =>
                  rw [Fields.getOrNull, given] at accepted
                  cases accepted
              | some direction =>
                  rw [Fields.getOrNull, given, Option.getD_some] at accepted led
                  -- Integers and truth values lead somewhere or off the ends; of what else is
                  -- accepted as a direction, there are only floating point numbers.
                  cases direction with
                  | int | bool => cases led
                  | float x =>
                      have fault := RuleSet.eq_wrongKind_of_target? led
                      exact absurd ⟨fields, x, i, r, read, given, isDirection_float.mp accepted,
                        placed, same, fault ▸ led⟩ whole
                  | _ => cases accepted
      apply answers_bind (ends_discard first)
      intro _ next _
      exact answers_get_tell fun repo =>
        .object [("order", .list (repo.ruleSet.rules.map fun rule => .text rule.id))]
  · exact .inr (.inr (.inl rfl))

/-- The request is one that the service itself fails on. -/
def Overwhelms (repo : Repository) (body : Bytes) : Resource → Prop
  | .ruleMove id => AsksFloatMove repo body id
  | .condition _ numeral => numeralLimit < numeral.length
  | _ => False

theorem status_of_overwhelms (distinct : RuleSet.DistinctIds repo.ruleSet.rules) {path : Text}
    {resource : Resource} (named : Resource.ofPath? path = some resource) {method : Method}
    (changes : resource.changedBy method = true) (overwhelms : Overwhelms repo body resource) :
    status ((handle body resource method).run repo) = 500 := by
  cases resource with
  | ruleMove id =>
      cases method with
      | post => exact status_of_asksFloatMove distinct overwhelms
      | _ => cases changes
  | condition id numeral =>
      obtain ⟨nonempty, decimal⟩ := Resource.decimal_of_ofPath? named
      rcases conditionIndex_of_decimal decimal nonempty with ⟨-, unread⟩ | ⟨short, -⟩
      · cases method with
        | put | delete =>
            simp only [handle, EStateM.run_bind, Authoring.run_ofExcept, unread]
            rfl
        | _ => cases changes
      · exact absurd overwhelms short
  | _ => cases overwhelms

theorem answers_handle (sound : repo.Sound Rule.Printable) {path : Text} {resource : Resource}
    (named : Resource.ofPath? path = some resource) {method : Method}
    (changes : resource.changedBy method = true) (authoring : resource ≠ .config)
    (manageable : ¬ Overwhelms repo body resource) : Answers (handle body resource method) repo := by
  cases resource with
  | config => exact absurd rfl authoring
  | settings =>
      cases method with
      | put => exact answers_changeSettings sound body
      | _ => cases changes
  | rules =>
      cases method with
      | post => exact answers_addRule sound body
      | _ => cases changes
  | rule id =>
      cases method with
      | put => exact answers_updateRule sound body id
      | delete => exact answers_deleteRule sound body id
      | _ => cases changes
  | ruleMove id =>
      cases method with
      | post => exact answers_move sound.rules.distinct manageable
      | _ => cases changes
  | conditions id =>
      cases method with
      | post => exact answers_addCondition sound body id
      | _ => cases changes
  | condition id numeral =>
      obtain ⟨nonempty, decimal⟩ := Resource.decimal_of_ofPath? named
      rcases conditionIndex_of_decimal decimal nonempty with ⟨long, -⟩ | ⟨-, n, read, fits⟩
      · exact absurd long manageable
      · have answers := answers_condition sound body id read fits
        cases method with
        | put => exact answers.1
        | delete => exact answers.2
        | _ => cases changes
  | _ => cases method <;> cases changes

theorem status_serve (path : Text) (body : Bytes) (resource : Resource) (method : Method) :
    (serve repo path body resource method).2.status =
      status ((handle body resource method).run repo) := by
  unfold serve
  cases (handle body resource method).run repo <;> rfl

theorem shows_serve (sound : repo.Sound Rule.Printable) {path : Text} {resource : Resource}
    {method : Method} (changes : resource.changedBy method = true) {document : Value}
    (told : (serve repo path body resource method).2.content = .json document) :
    (serve repo path body resource method).1.Shows document := by
  unfold serve at told ⊢
  rcases (leads_handle body changes repo sound).ok_or_error with
    ⟨success, next, run, done, -⟩ | ⟨problem, run, -⟩
  · rw [run] at told ⊢
    cases told
    exact done.2
  · rw [run] at told ⊢
    simp only [problemResponse] at told
    split at told
    · cases told
      exact .inl (Value.plain_object ["error"] rfl (by decide) ⟨trivial, trivial⟩)
    · cases told

end Service

theorem Repository.respond_of_changedBy (repo : Repository) {request : Request} {resource : Resource}
    (named : Resource.ofPath? (Path.ofTarget request.target) = some resource)
    (changes : resource.changedBy (Method.ofName request.method) = true) :
    repo.respond request = Service.serve repo (Path.ofTarget request.target) request.body resource
      (Method.ofName request.method) := by
  have methods := Resource.method_of_changedBy changes
  have allowed : resource.allows (Method.ofName request.method) = true := by
    generalize Method.ofName request.method = method at changes methods
    rcases methods with rfl | rfl | rfl <;> cases resource <;> first | rfl | cases changes
  have found : Destination.find (Method.ofName request.method) (Path.ofTarget request.target) =
      .found resource := by
    simp only [Destination.find, named, allowed, if_true]
  unfold respond
  simp only [found]
  rcases methods with post | put | delete
  · simp only [post, Service.attend, reduceCtorEq, if_false]
  · simp only [put, Service.attend, reduceCtorEq, if_false]
  · simp only [delete, Service.attend, reduceCtorEq, if_false]

namespace Service

variable {repo : Repository} {body : Bytes} {id : Text}

/-- In a list of any real length, it is a swap of two rules that is asked for. -/
theorem asksFloatMove_iff (few : repo.ruleSet.rules.length < twoTo 53) :
    AsksFloatMove repo body id ↔
      ∃ (fields : Fields) (x : Double) (n : Int) (i : Nat) (r : Rule),
        bodyFields body = .ok fields ∧ Fields.get? "direction" fields = some (.float x) ∧
          x.toInt? = some n ∧ (n = 1 ∨ n = -1) ∧ repo.ruleSet.rules[i]? = some r ∧ r.id = id ∧
          0 ≤ (i : Int) + n ∧ (i : Int) + n < repo.ruleSet.rules.length := by
  have led {i : Nat} {r : Rule} {x : Double} {n : Int} (placed : repo.ruleSet.rules[i]? = some r)
      (whole : x.toInt? = some n) (one : n = 1 ∨ n = -1) :
      RuleSet.target? i repo.ruleSet.rules.length (.float x) = .error .wrongKind ↔
        0 ≤ (i : Int) + n ∧ (i : Int) + n < repo.ruleSet.rules.length := by
    obtain ⟨inside, -⟩ := List.getElem?_eq_some_iff.mp placed
    rw [RuleSet.target?_of_float inside few whole one]
    split
    · next within => simp only [within, and_self]
    · next outside => simp only [outside, reduceCtorEq]
  constructor
  · rintro ⟨fields, x, i, r, read, given, up | down, placed, same, failed⟩
    · exact ⟨fields, x, 1, i, r, read, given, up, .inl rfl, placed, same,
        (led placed up (.inl rfl)).mp failed⟩
    · exact ⟨fields, x, -1, i, r, read, given, down, .inr rfl, placed, same,
        (led placed down (.inr rfl)).mp failed⟩
  · rintro ⟨fields, x, n, i, r, read, given, whole, one, placed, same, within⟩
    have unit : x.toInt? = some 1 ∨ x.toInt? = some (-1) := by
      rcases one with rfl | rfl
      · exact .inl whole
      · exact .inr whole
    exact ⟨fields, x, i, r, read, given, unit, placed, same, (led placed whole one).mpr within⟩

end Service

open Service in
/-- In every state of the service, a request that authors rules or settings is answered with 500
    exactly if it moves a rule by a floating point number to a position in the list or has an index
    with more digits than are read; otherwise with 200, 201, 400 or 404, and the document of the
    answer can be printed, unless a rule has a number with as many digits as numerals may have. For
    lists of any real length, the moves in question are those that would swap two rules. -/
theorem authoring_fails_iff_overwhelmed {repo : Repository} (served : repo.Served) {request : Request}
    {resource : Resource}
    (named : Resource.ofPath? (Path.ofTarget request.target) = some resource)
    (changes : resource.changedBy (Method.ofName request.method) = true)
    (authoring : resource ≠ .config) :
    ((repo.respond request).2.status = 500 ↔ Overwhelms repo request.body resource) ∧
    ((repo.respond request).2.status ≠ 500 → OrdinaryStatus (repo.respond request).2.status) ∧
    (∀ document, (repo.respond request).2.content = .json document →
      (repo.respond request).1.Shows document) ∧
    (repo.ruleSet.rules.length < twoTo 53 → ∀ id, resource = .ruleMove id →
      (Overwhelms repo request.body resource ↔
        ∃ (fields : Fields) (x : Double) (n : Int) (i : Nat) (r : Rule),
          bodyFields request.body = .ok fields ∧
          Fields.get? "direction" fields = some (.float x) ∧ x.toInt? = some n ∧
          (n = 1 ∨ n = -1) ∧ repo.ruleSet.rules[i]? = some r ∧ r.id = id ∧
          0 ≤ (i : Int) + n ∧ (i : Int) + n < repo.ruleSet.rules.length)) := by
  have sound := served.sound
  have answered : Overwhelms repo request.body resource ∧ (repo.respond request).2.status = 500 ∨
      ¬ Overwhelms repo request.body resource ∧
        OrdinaryStatus (repo.respond request).2.status := by
    rw [repo.respond_of_changedBy named changes, status_serve]
    by_cases overwhelms : Overwhelms repo request.body resource
    · exact .inl ⟨overwhelms, status_of_overwhelms sound.rules.distinct named changes overwhelms⟩
    · exact .inr ⟨overwhelms, answers_handle sound named changes authoring overwhelms⟩
  refine ⟨?_, ?_, ?_, ?_⟩
  · rcases answered with ⟨overwhelms, status⟩ | ⟨manageable, ordinary⟩
    · exact iff_of_true status overwhelms
    · exact iff_of_false ordinary.ne_500 manageable
  · intro other
    rcases answered with ⟨-, status⟩ | ⟨-, ordinary⟩
    · exact absurd status other
    · exact ordinary
  · rw [repo.respond_of_changedBy named changes]
    intro document told
    exact shows_serve sound changes told
  · rintro few id rfl
    exact asksFloatMove_iff few

/-- The first of two rules is moved down: an integer is no reason to fail, a floating point number is
    one. -/
theorem first_rule_moves_by_integer_only :
    let post : Request := ⟨"POST", "/api/rules", []⟩
    let repo := ((Repository.empty.respond post).1.respond post).1
    let move (body : Text) : Request := ⟨"POST", "/api/rules/rule-1/move", Utf8.encode body⟩
    OrdinaryStatus (repo.respond (move "\x7b\"direction\": 1\x7d")).2.status ∧
      Service.AsksFloatMove repo (Utf8.encode "\x7b\"direction\": 1.0\x7d") "rule-1" := by
  intro post repo move
  have opened : Repository.ofFile? none = .ok .empty := rfl
  have served : repo.Served := .respond (.respond (.start opened) post) post
  have named : Resource.ofPath? (Path.ofTarget "/api/rules/rule-1/move") =
      some (.ruleMove "rule-1") := by decide +kernel
  have changes : (Resource.ruleMove "rule-1").changedBy (Method.ofName "POST") = true := by
    decide +kernel
  have moved : (repo.respond (move "\x7b\"direction\": 1\x7d")).2.status ≠ 500 := by
    decide +kernel
  have fails : (repo.respond (move "\x7b\"direction\": 1.0\x7d")).2.status = 500 := by
    decide +kernel
  have answered (body : Text) :=
    @authoring_fails_iff_overwhelmed repo served (move body) _ named changes nofun
  -- The bodies are given, since finding them would mean to compare what is answered.
  have ordinary : OrdinaryStatus (repo.respond (move "\x7b\"direction\": 1\x7d")).2.status :=
    (answered "\x7b\"direction\": 1\x7d").2.1 moved
  have overwhelms : Service.Overwhelms repo (move "\x7b\"direction\": 1.0\x7d").body
      (.ruleMove "rule-1") := (answered "\x7b\"direction\": 1.0\x7d").1.mp fails
  exact ⟨ordinary, overwhelms⟩

/-- A move of the first of two rules by one fails, if the one is a floating point number. A move by
    two is refused. -/
theorem moving_by_float_fails :
    let post : Request := ⟨"POST", "/api/rules", []⟩
    let repo := ((Repository.empty.respond post).1.respond post).1
    let move (body : Text) : Request := ⟨"POST", "/api/rules/rule-1/move", Utf8.encode body⟩
    repo.Served ∧ (repo.respond (move "\x7b\"direction\": 1.0\x7d")).2.status = 500 ∧
      (repo.respond (move "\x7b\"direction\": 2.0\x7d")).2.status = 400 := by
  intro post repo move
  have opened : Repository.ofFile? none = .ok .empty := rfl
  have served : repo.Served := .respond (.respond (.start opened) post) post
  have fails : (repo.respond (move "\x7b\"direction\": 1.0\x7d")).2.status = 500 := by
    decide +kernel
  have refused : (repo.respond (move "\x7b\"direction\": 2.0\x7d")).2.status = 400 := by
    decide +kernel
  exact ⟨served, fails, refused⟩

end UnitRouting

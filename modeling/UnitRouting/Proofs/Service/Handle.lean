import UnitRouting.Proofs.Config.RoundTrip
import UnitRouting.Proofs.Repository.Printable
import UnitRouting.Proofs.Service.Route
import UnitRouting.Service.Handle

/-! # What handling a request does to the repository

Work that only reads comes first in every handler, then at most one command that can fail, and after
it only what cannot, down to printing the answer. So a handler that meets a problem leaves the
repository as it was. -/

namespace UnitRouting

open Outcome
open Repository (Ends)

/-- The document can be printed, unless a rule has a number with as many digits as numerals may
    have. -/
def Repository.Shows (repo : Repository) (document : Value) : Prop :=
  document.Plain ∨ ∃ r ∈ repo.ruleSet.rules, r.FarNumbered

theorem Rule.plain_toValue {r : Rule} (fits : r.priority.natAbs < numeralBound) :
    r.toValue.Plain := by
  have conditions : Value.PlainItems (r.conditions.map conditionValue) := by
    rw [Value.plainItems_iff]
    intro v member
    obtain ⟨c, -, rfl⟩ := List.mem_map.mp member
    exact Value.plain_object ["field", "operator", "value"] rfl (by decide)
      ⟨trivial, trivial, trivial, trivial⟩
  exact Value.plain_object ["id", "name", "priority", "unit_id", "condition_operator", "conditions"]
    rfl (by decide) ⟨trivial, trivial, fits, trivial, trivial, conditions, trivial⟩

namespace Repository.Sound

variable {repo : Repository}

theorem shows_rule (sound : repo.Sound Rule.Printable) {r : Rule} (member : r ∈ repo.ruleSet.rules) :
    repo.Shows r.toValue := by
  rcases sound.rules.each r member with fits | far
  · exact .inl (Rule.plain_toValue fits)
  · exact .inr ⟨r, member, far⟩

theorem shows_build (sound : repo.Sound Rule.Printable) : repo.Shows repo.ruleSet.build := by
  by_cases far : ∃ r ∈ repo.ruleSet.rules, r.FarNumbered
  · exact .inr far
  · refine .inl (RuleSet.plain_build fun r member => ?_)
    rcases sound.rules.each r member with fits | here
    · exact fits
    · exact absurd ⟨r, member, here⟩ far

end Repository.Sound

namespace Handling

variable {α β : Type} {work : Handling α} {f : α → Handling β}
  {known : α → Prop} {known' : β → Prop} {before : Repository → Prop}
  {good : α → Repository → Prop} {good' : β → Repository → Prop}

/-- The work reads the repository and leaves it as it is. -/
def Reads (known : α → Prop) (work : Handling α) : Prop :=
  ∀ repo : Repository, Ends (fun _ => True) (fun a next => known a ∧ next = repo) repo (work.run repo)

/-- From a sound repository the work leads to one, or it meets a problem and does nothing. -/
def Leads (good : α → Repository → Prop) (work : Handling α) : Prop :=
  ∀ repo : Repository, repo.Sound Rule.Printable →
    Ends (fun _ => True) (fun a next => good a next ∧ next.Sound Rule.Printable) repo (work.run repo)

/-- From a sound repository the work leads to one, without any problem. -/
def Surely (before : Repository → Prop) (good : α → Repository → Prop) (work : Handling α) : Prop :=
  ∀ repo : Repository, repo.Sound Rule.Printable → before repo →
    ∃ a next, work.run repo = .ok a next ∧ good a next ∧ next.Sound Rule.Printable

theorem Reads.bind (first : Reads known work) (next : ∀ a, known a → Reads known' (f a)) :
    Reads known' (work >>= f) := by
  intro repo
  rw [EStateM.run_bind]
  rcases (first repo).ok_or_error with ⟨a, _, run, holds, rfl⟩ | ⟨problem, run, -⟩
  · rw [run]
    exact next a holds _
  · rw [run]
    exact .error trivial

theorem Reads.bind_leads (first : Reads known work) (next : ∀ a, known a → Leads good' (f a)) :
    Leads good' (work >>= f) := by
  intro repo sound
  rw [EStateM.run_bind]
  rcases (first repo).ok_or_error with ⟨a, _, run, holds, rfl⟩ | ⟨problem, run, -⟩
  · rw [run]
    exact next a holds _ sound
  · rw [run]
    exact .error trivial

/-- Nothing that follows takes back what was done, so it may not fail. -/
theorem Leads.bind_surely (first : Leads good work) (next : ∀ a, Surely (good a) good' (f a)) :
    Leads good' (work >>= f) := by
  intro repo sound
  rw [EStateM.run_bind]
  rcases (first repo sound).ok_or_error with ⟨a, state, run, holds, soundState⟩ | ⟨problem, run, -⟩
  · obtain ⟨b, last, later, here⟩ := next a state soundState holds
    rw [run]
    dsimp only
    rw [later]
    exact .ok here
  · rw [run]
    exact .error trivial

theorem Surely.bind (first : Surely before good work) (next : ∀ a, Surely (good a) good' (f a)) :
    Surely before good' (work >>= f) := by
  intro repo sound holds
  obtain ⟨a, state, run, given, soundState⟩ := first repo sound holds
  obtain ⟨b, last, later, here⟩ := next a state soundState given
  exact ⟨b, last, by rw [EStateM.run_bind, run]; exact later, here⟩

theorem Surely.leads (surely : Surely (fun _ => True) good work) : Leads good work := by
  intro repo sound
  obtain ⟨a, next, run, here⟩ := surely repo sound trivial
  rw [run]
  exact .ok here

theorem surely_pure {a : α}
    (holds : ∀ repo : Repository, repo.Sound Rule.Printable → before repo → good a repo) :
    Surely before good (pure a : Handling α) := by
  intro repo sound here
  exact ⟨a, repo, rfl, holds repo sound here, sound⟩

theorem reads_pure {a : α} (holds : known a) : Reads known (pure a : Handling α) := by
  intro repo
  exact .ok ⟨holds, rfl⟩

theorem reads_get : Reads (fun _ => True) (get : Handling Repository) := by
  intro repo
  exact .ok ⟨trivial, rfl⟩

theorem surely_get : Surely before (fun repo next => repo = next) (get : Handling Repository) := by
  intro repo sound _
  exact ⟨repo, repo, rfl, rfl, sound⟩

theorem reads_throw (problem : Problem) : Reads known (throw problem : Handling α) := by
  intro repo
  exact .error trivial

theorem leads_throw (problem : Problem) : Leads good (throw problem : Handling α) := by
  intro repo _
  exact .error trivial

theorem reads_ofExcept (result : Except Problem α) :
    Reads (fun a => result = .ok a) (MonadExcept.ofExcept result : Handling α) := by
  intro repo
  rw [Authoring.run_ofExcept]
  cases result with
  | ok a => exact .ok ⟨rfl, rfl⟩
  | error problem => exact .error trivial

theorem discard_eq (work : Handling α) : discard work = work >>= fun _ => pure PUnit.unit := rfl

theorem Leads.discard (leads : Leads good work) : Leads (fun _ _ => True) (discard work) := by
  rw [discard_eq]
  exact leads.bind_surely fun _ => surely_pure fun _ _ _ => trivial

theorem Surely.discard (surely : Surely before good work) :
    Surely before (fun _ _ => True) (discard work) := by
  rw [discard_eq]
  exact surely.bind fun _ => surely_pure fun _ _ _ => trivial

end Handling

namespace Service

open Handling

/-- A rule that is replied is one of the repository. -/
def Replied (reply : Reply) (repo : Repository) : Prop :=
  ∀ r, reply = .rule r → r ∈ repo.ruleSet.rules

theorem leads_execute (command : Command) (respects : command.Respects Rule.Printable) :
    Leads Replied (execute command) := by
  intro repo sound
  rw [execute, EStateM.run_adaptExcept]
  rcases (Command.authoring_keeps Rule.lasting_printable respects repo sound).ok_or_error with
    ⟨reply, next, run, here⟩ | ⟨fault, run, -⟩
  · rw [run]
    refine .ok ⟨?_, here⟩
    rintro r rfl
    exact Command.mem_of_answered run
  · rw [run]
    exact .error trivial

theorem surely_execute {command : Command} (respects : command.Respects Rule.Printable)
    (succeeds : ∀ repo : Repository, repo.Sound Rule.Printable →
      ∃ reply next, command.authoring.run repo = .ok reply next) :
    Surely (fun _ => True) Replied (execute command) := by
  intro repo sound _
  obtain ⟨reply, next, run⟩ := succeeds repo sound
  have ends := leads_execute command respects repo sound
  have same : (execute command).run repo = .ok reply next := by
    rw [execute, EStateM.run_adaptExcept, run]
  rw [same] at ends
  cases ends with
  | ok here => exact ⟨reply, next, same, here⟩

theorem surely_setDefaultUnitId {v : Value} (fits : v.Fits) :
    Surely (fun _ => True) Replied (execute (.setDefaultUnitId v)) := by
  refine surely_execute trivial fun repo sound => ?_
  obtain ⟨text, shown⟩ := Value.display_succeeds fits
  have changed : repo.ruleSet.setDefaultUnitId v =
      .ok { repo.ruleSet with defaultUnitId := text } := by
    rw [RuleSet.setDefaultUnitId, shown]
    exact RuleSet.create_of_distinct sound.rules.distinct
  simp only [Command.authoring, Authoring.run_mutate, changed, Except.map]
  exact ⟨_, _, rfl⟩

theorem surely_setVersion {v : Value} (fits : v.Fits) :
    Surely (fun _ => True) Replied (execute (.setVersion v)) := by
  refine surely_execute trivial fun repo sound => ?_
  obtain ⟨text, shown⟩ := Value.display_succeeds fits
  have changed : repo.ruleSet.setVersion v = .ok { repo.ruleSet with version := text } := by
    rw [RuleSet.setVersion, shown]
    exact RuleSet.create_of_distinct sound.rules.distinct
  simp only [Command.authoring, Authoring.run_mutate, changed, Except.map]
  exact ⟨_, _, rfl⟩

theorem fits_of_bodyFields {body : Bytes} {fields : Fields} (read : bodyFields body = .ok fields) :
    Value.FitsFields fields := by
  unfold bodyFields at read
  split at read
  · cases read
    trivial
  · split at read
    · next document =>
        cases read
        obtain ⟨t, -, parsed⟩ := Option.map_eq_some_iff.mp document
        exact Json.fits_of_read parsed
    · cases read
    · cases read

theorem fits_of_supportedFields {supported : List Text} {body : Bytes} {fields : Fields}
    (read : supportedFields supported body = .ok fields) : Value.FitsFields fields := by
  simp only [supportedFields, bind_eq_ok] at read
  obtain ⟨given, bodyRead, read⟩ := read
  split at read
  · cases read
    exact fits_of_bodyFields bodyRead
  · cases read

theorem surely_changeSetting {fields : Fields} (fits : Value.FitsFields fields) (name : Text)
    {command : Value → Command}
    (surely : ∀ v : Value, v.Fits → Surely (fun _ => True) Replied (execute (command v))) :
    Surely (fun _ => True) (fun _ _ => True) (changeSetting fields name command) := by
  unfold changeSetting
  cases found : fields.get? name with
  | none => exact surely_pure fun _ _ _ => trivial
  | some v => exact (surely v (Value.fits_of_get? fits found)).discard

/-- Both settings are changed for sure, so no problem with the second comes after the first. -/
theorem surely_changeSettings {fields : Fields} (fits : Value.FitsFields fields) :
    Surely (fun _ => True) (fun _ _ => True) (changeSettings fields) :=
  (surely_changeSetting fits _ fun _ => surely_setDefaultUnitId).bind fun _ =>
    surely_changeSetting fits _ fun _ => surely_setVersion

/-- What is told is a success. -/
def Told (success : Success) : Prop := success.status < 400

/-- What is told is a success, and its document can be printed. -/
def Done (success : Success) (repo : Repository) : Prop :=
  success.status < 400 ∧ repo.Shows success.document

theorem reads_tell (document : Value) : Reads Told (tell document) :=
  reads_pure (by decide : 200 < 400)

theorem surely_tell {before : Repository → Prop} {document : Value}
    (shows : ∀ repo : Repository, repo.Sound Rule.Printable → before repo → repo.Shows document) :
    Surely before Done (tell document) :=
  surely_pure fun repo sound here => ⟨(by decide : 200 < 400), shows repo sound here⟩

theorem leads_author {status : Nat} (success : status < 400) {command : Command}
    (respects : command.Respects Rule.Printable) : Leads Done (author status command) := by
  refine (leads_execute command respects).bind_surely fun reply => ?_
  cases reply with
  | rule r =>
      exact surely_pure fun repo sound replied => ⟨success, sound.shows_rule (replied r rfl)⟩
  | _ => exact surely_pure fun _ _ _ => ⟨success, .inl trivial⟩

theorem leads_replaceConfig (body : Bytes) : Leads Done (replaceConfig body) := by
  refine (reads_ofExcept _).bind_leads fun rs parsed => ?_
  have sound := RuleSet.printable_of_parse (mapError_eq_ok.mp parsed)
  refine (leads_execute (.replaceAll rs) sound).discard.bind_surely fun _ => ?_
  refine surely_get.bind fun repo => surely_tell ?_
  rintro _ soundNow rfl
  exact soundNow.shows_build

theorem plain_settingsDocument (rs : RuleSet) : (settingsDocument rs).Plain :=
  Value.plain_object ["version", "default_unit_id"] rfl (by decide) ⟨trivial, trivial, trivial⟩

theorem leads_changeSettings (body : Bytes) : Leads Done (handle body .settings .put) := by
  refine (reads_ofExcept _).bind_leads fun fields read => ?_
  have settings := surely_changeSettings (fits_of_supportedFields read)
  refine settings.leads.bind_surely fun _ => surely_get.bind fun repo => ?_
  exact surely_tell fun _ _ _ => .inl (plain_settingsDocument _)

theorem leads_move (id : Text) (body : Bytes) : Leads Done (move id body) := by
  refine (reads_ofExcept _).bind_leads fun fields _ => ?_
  dsimp only
  split
  · have moved := leads_execute (.moveRule (.text id) (fields.getOrNull "direction")) trivial
    refine moved.discard.bind_surely fun _ => surely_get.bind fun repo => surely_tell ?_
    intro _ _ _
    have ids := Value.plainItems_texts (repo.ruleSet.rules.map (·.id))
    rw [List.map_map] at ids
    exact .inl (Value.plain_object ["order"] rfl (by decide) ⟨ids, trivial⟩)
  · exact leads_throw _

theorem leads_deleteRule (id : Text) (body : Bytes) :
    Leads Done (handle body (.rule id) .delete) := by
  refine (leads_execute (.deleteRule (.text id)) trivial).discard.bind_surely fun _ => ?_
  exact surely_tell fun _ _ _ =>
    .inl (Value.plain_object ["deleted"] rfl (by decide) ⟨trivial, trivial⟩)

theorem reads_checkConfig (body : Bytes) : Reads Told (checkConfig body) :=
  (reads_ofExcept _).bind fun _ _ => reads_tell _

theorem reads_evaluate (body : Bytes) : Reads Told (evaluate body) := by
  refine (reads_ofExcept _).bind fun fields _ => ?_
  split
  · exact reads_get.bind fun repo _ => (reads_ofExcept _).bind fun _ _ => reads_tell _
  · exact reads_throw _

theorem reads_describe (body : Bytes) : Reads Told (describe body) := by
  refine (reads_ofExcept _).bind fun fields _ => ?_
  split
  · exact reads_tell _
  · exact reads_throw _

theorem reads_handle (body : Bytes) {resource : Resource} {method : Method}
    (inert : resource.changedBy method = false) : Reads Told (handle body resource method) := by
  cases resource with
  | health =>
      cases method with
      | get => exact reads_tell _
      | _ => exact reads_throw _
  | config =>
      cases method with
      | get => exact reads_get.bind fun _ _ => reads_tell _
      | put => cases inert
      | _ => exact reads_throw _
  | configCheck =>
      cases method with
      | post => exact reads_checkConfig body
      | _ => exact reads_throw _
  | settings =>
      cases method with
      | put => cases inert
      | _ => exact reads_throw _
  | evaluation =>
      cases method with
      | post => exact reads_evaluate body
      | _ => exact reads_throw _
  | fields =>
      cases method with
      | post => exact reads_describe body
      | _ => exact reads_throw _
  | rules =>
      cases method with
      | get => exact reads_get.bind fun _ _ => reads_tell _
      | post => cases inert
      | _ => exact reads_throw _
  | rule | condition =>
      cases method with
      | put | delete => cases inert
      | _ => exact reads_throw _
  | ruleMove | conditions =>
      cases method with
      | post => cases inert
      | _ => exact reads_throw _
  | asset => cases method <;> exact reads_throw _

/-- Where something is to be changed, that is done and told, or nothing is. -/
theorem leads_handle (body : Bytes) {resource : Resource} {method : Method}
    (changes : resource.changedBy method = true) : Leads Done (handle body resource method) := by
  cases resource with
  | config =>
      cases method with
      | put => exact leads_replaceConfig body
      | _ => cases changes
  | settings =>
      cases method with
      | put => exact leads_changeSettings body
      | _ => cases changes
  | rules =>
      cases method with
      | post =>
          refine (reads_ofExcept _).bind_leads fun fields read => leads_author (by decide) ?_
          exact fun n r => Rule.printable_of_new
            (RuleEdit.fits_ofFields (fits_of_supportedFields read) none)
      | _ => cases changes
  | rule id =>
      cases method with
      | put =>
          refine (reads_ofExcept _).bind_leads fun fields read => leads_author (by decide) ?_
          exact fun r s printable => printable.withChanges
            (RuleEdit.fits_ofFields (fits_of_supportedFields read) none)
      | delete => exact leads_deleteRule id body
      | _ => cases changes
  | ruleMove id =>
      cases method with
      | post => exact leads_move id body
      | _ => cases changes
  | conditions id =>
      cases method with
      | post =>
          exact (reads_ofExcept _).bind_leads fun fields _ => leads_author (by decide) trivial
      | _ => cases changes
  | condition id numeral =>
      cases method with
      | put =>
          exact (reads_ofExcept _).bind_leads fun index _ =>
            (reads_ofExcept _).bind_leads fun fields _ => leads_author (by decide) trivial
      | delete =>
          exact (reads_ofExcept _).bind_leads fun index _ => leads_author (by decide) trivial
      | _ => cases changes
  | _ => cases method <;> cases changes

end Service

end UnitRouting

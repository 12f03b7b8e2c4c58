import UnitRouting.Proofs.Text.Members
import UnitRouting.Service.Message
import UnitRouting.Service.Resource

/-! # Routes that change things

Which requests may change anything can be told from the method and the path alone. A path is given
back by its segments, so what a resource says of the segments is said of the path. -/

namespace UnitRouting

namespace Path

theorem slash_join_segments (rest : Text) :
    slash :: Text.join [slash] (segments (slash :: rest)) = slash :: rest := by
  have behind : segments (slash :: rest) = rest.splitOn slash := by
    simp only [segments, Text.splitOn, if_true, List.drop_succ_cons, List.drop_zero]
  rw [behind, Text.join_splitOn]

theorem slash_join_segments_ofTarget (target : Text) :
    slash :: Text.join [slash] (segments (ofTarget target)) = ofTarget target :=
  slash_join_segments _

end Path

namespace Resource

/-- The methods that may change something about a resource. -/
def changedBy : Resource → Method → Bool
  | .config, .put | .settings, .put => true
  | .rules, .post | .rule _, .put | .rule _, .delete | .ruleMove _, .post => true
  | .conditions _, .post | .condition _ _, .put | .condition _ _, .delete => true
  | _, _ => false

/-- Nothing about the resource is ever changed. -/
def Inert (resource : Resource) : Prop := ∀ method, resource.changedBy method = false

theorem ofApiSegments?_inv {segments : List Text} {resource : Resource}
    (found : ofApiSegments? segments = some resource) :
    (segments = [Text.ofString "config"] ∧ resource = .config) ∨
      (segments = [Text.ofString "settings"] ∧ resource = .settings) ∨
      (∃ rest, segments = Text.ofString "rules" :: rest) ∨ resource.Inert := by
  unfold ofApiSegments? at found
  split at found
  · cases found
  · next name =>
      split at found
      · next same =>
          cases found
          exact .inl ⟨congrArg ([·]) same, rfl⟩
      split at found
      · next same =>
          cases found
          exact .inr (.inl ⟨congrArg ([·]) same, rfl⟩)
      split at found
      · cases found
        exact .inr (.inr (.inr fun method => by cases method <;> rfl))
      split at found
      · cases found
        exact .inr (.inr (.inr fun method => by cases method <;> rfl))
      split at found
      · next same => exact .inr (.inr (.inl ⟨[], congrArg ([·]) same⟩))
      · cases found
  · next name rest _ =>
      split at found
      · next same => exact .inr (.inr (.inl ⟨rest, congrArg (· :: rest) same⟩))
      split at found
      · cases found
        exact .inr (.inr (.inr fun method => by cases method <;> rfl))
      · cases found

theorem ofSegments?_inv {segments : List Text} {resource : Resource}
    (found : ofSegments? segments = some resource) :
    (∃ rest, segments = Text.ofString "api" :: rest ∧ ofApiSegments? rest = some resource) ∨
      resource.Inert := by
  unfold ofSegments? at found
  split at found
  · split at found
    · cases found
      exact .inr fun method => by cases method <;> rfl
    · cases found
  · next name rest _ =>
      split at found
      · next same => exact .inl ⟨rest, congrArg (· :: rest) same, found⟩
      split at found
      · cases found
        exact .inr fun method => by cases method <;> rfl
      · cases found
  · cases found

theorem decimal_of_ofRuleSegments? {segments : List Text} {id numeral : Text}
    (found : ofRuleSegments? segments = some (.condition id numeral)) :
    numeral ≠ [] ∧ ∀ c ∈ numeral, c.isDecimal = true := by
  unfold ofRuleSegments? at found
  split at found
  · split at found <;> cases found
  · split at found
    · cases found
    · split at found
      · cases found
      · split at found <;> cases found
  · split at found
    · cases found
    · next sensible =>
        split at found
        · cases found
          simp only [Bool.or_eq_true, List.isEmpty_iff, Bool.not_eq_true', not_or,
            Bool.not_eq_false, List.all_eq_true] at sensible
          exact ⟨sensible.1.2, sensible.2⟩
        · cases found
  · cases found

theorem decimal_of_ofPath? {path id numeral : Text}
    (found : ofPath? path = some (.condition id numeral)) :
    numeral ≠ [] ∧ ∀ c ∈ numeral, c.isDecimal = true := by
  have changing : ¬ (condition id numeral).Inert := fun inert => nomatch inert .put
  rcases ofSegments?_inv found with ⟨rest, -, inApi⟩ | inert
  · rcases ofApiSegments?_inv inApi with ⟨-, other⟩ | ⟨-, other⟩ | ⟨behind, rfl⟩ | inert
    · cases other
    · cases other
    · cases behind with
      | nil => cases inApi
      | cons name more => exact decimal_of_ofRuleSegments? inApi
    · exact absurd inert changing
  · exact absurd inert changing

theorem method_of_changedBy {resource : Resource} {method : Method}
    (changes : resource.changedBy method = true) :
    method = .post ∨ method = .put ∨ method = .delete := by
  cases method with
  | post => exact .inl rfl
  | put => exact .inr (.inl rfl)
  | delete => exact .inr (.inr rfl)
  | _ => cases resource <;> cases changes

end Resource

/-- The request is for one of the routes that change things: the configuration or the settings, put,
    or something about rules, posted, put or deleted. -/
def Request.Mutating (request : Request) : Prop :=
  let method := Method.ofName request.method
  let path := Path.ofTarget request.target
  (method = .put ∧ (path = Text.ofString "/api/config" ∨ path = Text.ofString "/api/settings")) ∨
    ((method = .post ∨ method = .put ∨ method = .delete) ∧
      (path = Text.ofString "/api/rules" ∨ Text.ofString "/api/rules/" <+: path))

theorem Method.eq_put_of_changedBy {resource : Resource} {method : Method}
    (settings : resource = .config ∨ resource = .settings)
    (changes : resource.changedBy method = true) : method = .put := by
  rcases settings with rfl | rfl
  · cases method <;> first | rfl | cases changes
  · cases method <;> first | rfl | cases changes

theorem Request.mutating_of_changedBy {request : Request} {resource : Resource}
    (found : Resource.ofPath? (Path.ofTarget request.target) = some resource)
    (changes : resource.changedBy (Method.ofName request.method) = true) : request.Mutating := by
  have path := Path.slash_join_segments_ofTarget request.target
  have inert (never : resource.Inert) : request.Mutating := by
    rw [never] at changes
    cases changes
  rcases Resource.ofSegments?_inv found with ⟨rest, segments, inApi⟩ | never
  · rw [segments] at path
    rcases Resource.ofApiSegments?_inv inApi with ⟨rfl, rfl⟩ | ⟨rfl, rfl⟩ | ⟨rest, rfl⟩ | never
    · exact .inl ⟨Method.eq_put_of_changedBy (.inl rfl) changes, .inl path.symm⟩
    · exact .inl ⟨Method.eq_put_of_changedBy (.inr rfl) changes, .inr path.symm⟩
    · refine .inr ⟨Resource.method_of_changedBy changes, ?_⟩
      cases rest with
      | nil => exact .inl path.symm
      | cons id more => exact .inr ⟨Text.join [Path.slash] (id :: more), path⟩
    · exact inert never
  · exact inert never

end UnitRouting

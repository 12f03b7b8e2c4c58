import UnitRouting.Service.Path
import UnitRouting.Text.Case
import UnitRouting.Text.Digit

/-! # Resources

What paths name, and which methods each of them answers to. A path that names nothing, but would if
its double slashes were single ones, names a place that has moved. -/

namespace UnitRouting

/-- The method of a request. -/
inductive Method where
  | get
  | head
  | post
  | put
  | delete
  | options
  /-- A method that nothing answers to. -/
  | other
  deriving DecidableEq

/-- The method with a name, in either case. -/
def Method.ofName (name : Text) : Method :=
  let upper := name.toUpper
  if upper = Text.ofString "GET" then .get
  else if upper = Text.ofString "HEAD" then .head
  else if upper = Text.ofString "POST" then .post
  else if upper = Text.ofString "PUT" then .put
  else if upper = Text.ofString "DELETE" then .delete
  else if upper = Text.ofString "OPTIONS" then .options
  else .other

/-- What a path names. -/
inductive Resource where
  | health
  | config
  | configCheck
  | settings
  | evaluation
  | fields
  | rules
  | rule (id : Text)
  | ruleMove (id : Text)
  | conditions (id : Text)
  /-- A condition by its numeral, of decimal digits of any script. -/
  | condition (id numeral : Text)
  /-- A file beside the service; there is none. -/
  | asset
  deriving DecidableEq

namespace Resource

/-- What the segments after those of all rules name. -/
def ofRuleSegments? : List Text → Option Resource
  | [id] => if id.isEmpty then none else some (.rule id)
  | [id, part] =>
    if id.isEmpty then none
    else if part = Text.ofString "move" then some (.ruleMove id)
    else if part = Text.ofString "conditions" then some (.conditions id)
    else none
  | [id, part, numeral] =>
    if id.isEmpty || numeral.isEmpty || !numeral.all CodePoint.isDecimal then none
    else if part = Text.ofString "conditions" then some (.condition id numeral)
    else none
  | _ => none

/-- What the segments after those of the whole interface name. -/
def ofApiSegments? : List Text → Option Resource
  | [] => none
  | [name] =>
    if name = Text.ofString "config" then some .config
    else if name = Text.ofString "settings" then some .settings
    else if name = Text.ofString "evaluate" then some .evaluation
    else if name = Text.ofString "fields" then some .fields
    else if name = Text.ofString "rules" then some .rules
    else none
  | name :: rest =>
    if name = Text.ofString "rules" then ofRuleSegments? rest
    else if name = Text.ofString "config" ∧ rest = [Text.ofString "validate"] then some .configCheck
    else none

/-- The text can be the name of a file: it does not begin with a slash, and no line feed follows its
    beginning. -/
def isAssetName : Text → Bool
  | [] => false
  | c :: rest => c != Path.slash && !rest.contains (CodePoint.ofChar '\n')

/-- What segments name. -/
def ofSegments? : List Text → Option Resource
  | [name] => if name = Text.ofString "healthz" then some .health else none
  | name :: rest =>
    if name = Text.ofString "api" then ofApiSegments? rest
    else if name = Text.ofString "static" ∧ isAssetName (Text.join [Path.slash] rest) then
      some .asset
    else none
  | [] => none

/-- What a path names. -/
def ofPath? (path : Text) : Option Resource := ofSegments? (Path.segments path)

/-- The methods that a resource answers to by itself. -/
def methods : Resource → List Method
  | .health | .asset => [.get]
  | .config => [.get, .put]
  | .configCheck | .evaluation | .fields | .ruleMove _ | .conditions _ => [.post]
  | .settings => [.put]
  | .rules => [.get, .post]
  | .rule _ | .condition _ _ => [.put, .delete]

/-- The methods that a resource answers to: its own, `HEAD` if `GET` is one of them, and `OPTIONS`. -/
def allows (resource : Resource) : Method → Bool
  | .options => true
  | .head => resource.methods.contains .get
  | method => resource.methods.contains method

end Resource

/-- Where a request leads. -/
inductive Destination where
  | found (resource : Resource)
  /-- The path with single slashes is the right one. -/
  | moved
  | methodNotAllowed
  | missing
  deriving DecidableEq

/-- The destination of a method and a path. -/
def Destination.find (method : Method) (path : Text) : Destination :=
  match Resource.ofPath? path with
  | some resource => if resource.allows method then .found resource else .methodNotAllowed
  | none =>
    match Resource.ofPath? (Path.withSlashesMerged path) with
    | some resource => if resource.allows method then .moved else .methodNotAllowed
    | none => .missing

end UnitRouting

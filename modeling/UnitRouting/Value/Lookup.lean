import UnitRouting.Value.Basic

/-! # Field lookup

A condition names a field by a path. A field whose name is the whole path wins; otherwise the
path is split at its dots and followed through nested objects. -/

namespace UnitRouting

/-- Follows a path of names through nested objects. -/
def Value.follow : Value → List Text → Value
  | value, [] => value
  | .object fields, name :: path =>
    match Fields.get? name fields with
    | some value => value.follow path
    | none => .undefined
  | _, _ :: _ => .undefined

/-- The value at a path of a context; `undefined` if there is none. -/
def Fields.resolve (context : Fields) (path : Text) : Value :=
  match context.get? path with
  | some value => value
  | none => (Value.object context).follow (path.splitOn '.')

end UnitRouting

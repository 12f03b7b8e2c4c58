import UnitRouting.Text.Case
import UnitRouting.Value.Loose

/-! # Field discovery

Describes the fields of sample metadata that a condition could name. Nested objects are walked to
a depth that is counted in the segments of paths, so a dot inside a name uses up depth as well. -/

namespace UnitRouting

/-- The text has this many ASCII digits in front: what follows them. -/
def afterDigits? : Nat → Text → Option Text
  | 0, t => some t
  | n + 1, c :: rest => if c.isDigit then afterDigits? n rest else none
  | _ + 1, [] => none

/-- The text has this code point in front: what follows it. -/
def afterMark? (mark : Char) : Text → Option Text
  | c :: rest => if c = CodePoint.ofChar mark then some rest else none
  | [] => none

/-- The text begins like `2024-05-31T12:30:00`. -/
def startsLikeTime (t : Text) : Bool :=
  Option.isSome do
    let t ← afterDigits? 4 t
    let t ← afterMark? '-' t
    let t ← afterDigits? 2 t
    let t ← afterMark? '-' t
    let t ← afterDigits? 2 t
    let t ← afterMark? 'T' t
    let t ← afterDigits? 2 t
    let t ← afterMark? ':' t
    let t ← afterDigits? 2 t
    let t ← afterMark? ':' t
    afterDigits? 2 t

/-- The kind of a field, for authors. -/
def Value.fieldType : Value → Text
  | .undefined | .null => "unknown"
  | .list _ => "array"
  | .object _ => "object"
  | .bool _ => "boolean"
  | .int _ => "integer"
  | .float x => if x.toInt?.isSome then Text.ofString "integer" else Text.ofString "number"
  | .text t =>
    if startsLikeTime t then "datetime"
    else if !t.isEmpty && t.all CodePoint.isDigit then "numeric-string"
    else "string"

/-- A short text that shows the value of a field. -/
def Value.fieldExample : Value → Text
  | .list [] => "[]"
  | .list [item] => "[" ++ item.looseText ++ "]"
  | .list (item :: _ :: _) => "[" ++ item.looseText ++ ", ...]"
  | .object _ => "\x7b...\x7d"
  | value => value.looseText

/-- A name with a space before each ASCII capital, and its first code point in upper case. -/
def readableName (name : Text) : Text :=
  match name.flatMap fun c =>
    if c.isBetween 'A' 'Z' then [CodePoint.ofChar ' ', c] else [c] with
  | [] => []
  | c :: rest => c.toUpper ++ rest

/-- The name of a path for authors: its last segment made readable, and the one before it in
    parentheses. -/
def displayName (path : Text) : Text :=
  match (path.splitOn '.').reverse with
  | [] => []
  | [only] => readableName only
  | last :: parent :: _ => readableName last ++ " (" ++ parent ++ ")"

/-- What authors are told about a field. -/
structure FieldDescriptor where
  path : Text
  displayName : Text
  type : Text
  sample : Text
  deriving DecidableEq

namespace FieldDescriptor

/-- The description of the value at a path. -/
def ofValue (path : Text) (value : Value) : FieldDescriptor :=
  ⟨path, UnitRouting.displayName path, value.fieldType, value.fieldExample⟩

/-- Ascending by the display name without case, then by the display name. -/
def le (a b : FieldDescriptor) : Bool :=
  let (x, y) := (a.displayName.fold, b.displayName.fold)
  if x = y then Text.le a.displayName b.displayName else Text.le x y

/-- The description as clients see it. -/
def toValue (d : FieldDescriptor) : Value :=
  .object [("path", .text d.path), ("display_name", .text d.displayName), ("type", .text d.type),
    ("example", .text d.sample)]

end FieldDescriptor

/-- Objects are walked into if the path that leads to the object around them has fewer segments. -/
def maxNesting : Nat := 3

/-- The path of a field of the object at a path; the empty path adds nothing. -/
def fieldPath (parent name : Text) : Text :=
  if parent.isEmpty then name else parent ++ "." ++ name

mutual

/-- Describes the fields of an object at a path, and after each field those inside it. -/
def walkFields (parent : Text) : List (Text × Value) → List FieldDescriptor
  | [] => []
  | (name, value) :: rest =>
    FieldDescriptor.ofValue (fieldPath parent name) value ::
      (if (parent.splitOn '.').length < maxNesting then walkInto (fieldPath parent name) value
        else [])
      ++ walkFields parent rest

/-- Describes the fields inside the value at a path. -/
def walkInto (path : Text) : Value → List FieldDescriptor
  | .object fields => walkFields path fields
  | _ => []

end

/-- Describes every field of a sample, sorted by display name; only objects have fields. -/
def discoverFields (sample : Value) : List FieldDescriptor :=
  (walkInto [] sample).mergeSort FieldDescriptor.le

end UnitRouting

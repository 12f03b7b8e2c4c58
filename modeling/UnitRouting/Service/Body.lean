import UnitRouting.Json.Encoding
import UnitRouting.Service.Problem

/-! # Bodies of requests

A body is read as the fields of a JSON object, in any encoding of JSON, or else as the text of a
configuration, in UTF-8. -/

namespace UnitRouting.Service

/-- The fields of a JSON body; an empty body has none. -/
def bodyFields (body : Bytes) : Except Problem Fields :=
  if body.isEmpty then .ok []
  else match (Json.decodeBytes? body).map Json.read with
    | some (.ok (.object fields)) => .ok fields
    | some (.ok _) => .error .bodyNotObject
    | _ => .error .malformedBody

/-- The fields of a JSON body that may only hold certain ones. -/
def supportedFields (supported : List Text) (body : Bytes) : Except Problem Fields := do
  let fields ← bodyFields body
  match fields.unknown supported with
  | [] => return fields
  | names => .error (.unsupportedFields names)

/-- The text of a body that is no JSON object. -/
def bodyText (body : Bytes) : Text := Utf8.decodeReplacing body

end UnitRouting.Service

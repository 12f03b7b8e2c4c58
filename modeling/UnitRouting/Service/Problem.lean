import UnitRouting.Fault

/-! # Problems of requests

Why a request is not carried out, and what the client is told about it. -/

namespace UnitRouting

/-- Why a request is not carried out. -/
inductive Problem where
  | missing
  | methodNotAllowed
  /-- The body is no JSON document. -/
  | malformedBody
  | bodyNotObject
  | unsupportedFields (names : List Text)
  | contextNotObject
  | sampleNotObject
  | directionUnknown
  /-- A numeral in the path has more digits than are read. -/
  | numeralTooLong
  /-- What the request asks for failed. -/
  | failed (fault : Fault)
  deriving DecidableEq

namespace Problem

/-- The status of the answer. Faults that no author can be told about are the service's own. -/
def status : Problem → Nat
  | .missing => 404
  | .methodNotAllowed => 405
  | .malformedBody | .bodyNotObject | .unsupportedFields _ => 400
  | .contextNotObject | .sampleNotObject | .directionUnknown => 400
  | .failed (.refused _) | .failed (.config _) => 400
  | .failed (.ruleNotFound _) | .failed (.conditionNotFound _ _) => 404
  | .numeralTooLong | .failed _ => 500

/-- The message of the service's own faults. -/
def internalMessage : Text := "internal server error"

/-- The wording of a problem. -/
def message : Problem → Text
  | .missing =>
    "The requested URL was not found on the server. If you entered the URL manually please "
      ++ "check your spelling and try again."
  | .methodNotAllowed => "The method is not allowed for the requested URL."
  | .malformedBody =>
    "The browser (or proxy) sent a request that this server could not understand."
  | .bodyNotObject => "request body must be a JSON object"
  | .unsupportedFields names => "unsupported field(s): " ++ Text.join ", " names
  | .contextNotObject => "context must be an object"
  | .sampleNotObject => "sample must be an object"
  | .directionUnknown => "direction must be -1 or 1"
  | .numeralTooLong =>
    "The server encountered an internal error and was unable to complete your request. Either "
      ++ "the server is overloaded or there is an error in the application."
  | .failed fault =>
    if (Problem.failed fault).status = 500 then internalMessage
    else fault.message?.getD internalMessage

end Problem

end UnitRouting

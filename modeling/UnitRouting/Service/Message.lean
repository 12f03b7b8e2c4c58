import UnitRouting.Text.Utf8
import UnitRouting.Value.Basic

/-! # Messages

What clients send and what they get. -/

namespace UnitRouting

/-- What a client sends. -/
structure Request where
  method : Text
  /-- The percent-encoded path, after a host and before a query if there are any. -/
  target : Text
  body : Bytes

/-- What an answer holds. -/
inductive Content where
  | json (document : Value)
  /-- The head of an answer that would hold a document. -/
  | jsonHead
  /-- A page for people, or nothing. -/
  | html

/-- What a client gets. -/
structure Response where
  status : Nat
  content : Content

/-- The answer without its document. -/
def Response.head (response : Response) : Response :=
  match response.content with
  | .json _ => { response with content := .jsonHead }
  | _ => response

end UnitRouting

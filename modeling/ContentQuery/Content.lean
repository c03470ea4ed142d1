import ContentQuery.Payload

/-!
# ContentQuery.Content

The content of a document as conditions see it: a JSON value, or plain text.

A string payload is JSON text if it reads as such, whatever value it denotes, and plain text
otherwise. Any other payload is the JSON value it stands for; if it stands for none, conditions see
the text by which it is shown, and if there is no such text either, there is no content.
-/

namespace ContentQuery

/-- What conditions are evaluated against. -/
inductive Content where
  | json (root : Json)
  | plain (text : Text)

namespace Content

/-- A string payload as conditions see it. -/
def ofText [Limits] (s : Text) : Content :=
  match Json.read .content Limits.contentText s with
  | .ok root => json root
  | .error _ => plain s

/-- A payload as conditions see it. -/
def ofPayload [Limits] : Payload → Except ShowError Content
  | .json (.string s) => .ok (ofText s)
  | payload =>
    match payload.root? with
    | some root => .ok (json root)
    | none => (payload.shown Limits.shown).map plain

end Content

end ContentQuery

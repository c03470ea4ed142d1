import ContentQuery.Search

/-!
# ContentQuery.Proofs.Sample

Small documents and requests, on which results about searches are tried.
-/

namespace ContentQuery.Sample

/-- The first moment that timestamps cover. -/
def start : Timestamp := ⟨0, by decide⟩

/-- A document from that moment. -/
def document (id owner : Text) (content : Payload) : Document := ⟨id, owner, content, start, start⟩

/-- A JSON object with one field. -/
def object (name value : Text) : Payload := .json (.object [(name, .string value)])

/-- A search for one condition, with the oldest documents first. -/
def request (user scope part : Text) : SearchRequest :=
  { user, scope, parts := [part], sortField := "creation_date", direction := "asc", page := 1
    limit := 20 }

/-- What a request for a condition on a field is read as. -/
def named : Condition := ⟨"n", ⟨.equals, false⟩, .string "x", "n equals x"⟩

/-- An object that has no such field, and one that matches. -/
def pair : List Document :=
  [document "a" "alice" (.json (.object [])), document "b" "alice" (object "n" "x")]

end ContentQuery.Sample

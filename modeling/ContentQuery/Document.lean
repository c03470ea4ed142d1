import ContentQuery.Payload
import ContentQuery.Timestamp

/-!
# ContentQuery.Document

Documents, and what a search reads them from.
-/

namespace ContentQuery

/-- A stored document. -/
structure Document where
  id : Text
  owner : Text
  content : Payload
  created : Timestamp
  modified : Timestamp

/-- Read access to documents and to the profiles that they are shared with. A document may have no
share record at all. -/
structure Store where
  documents : List Document
  ownedBy : Text → List Document
  sharedWith? : Text → Option (List Text)

/-- Read access that may fail. -/
structure Source (ε : Type) where
  documents : Except ε (List Document)
  ownedBy : Text → Except ε (List Document)
  sharedWith? : Text → Except ε (Option (List Text))

/-! ## Documents in memory -/

/-- Documents and share records by document id, in the order in which the ids were first given. -/
structure MemoryStore where
  entries : List (Text × Document)
  shares : List (Text × List Text)

namespace MemoryStore

/-- Keeps one document and one share record for each id: the last one given, in the place of the
first. -/
def ofLists (documents : List Document) (shares : List (Text × List Text)) : MemoryStore :=
  ⟨distinctFields (documents.map fun d => (d.id, d)), distinctFields shares⟩

def documents (store : MemoryStore) : List Document := store.entries.map (·.2)

/-- The view of a store that searches use. -/
def toStore (store : MemoryStore) : Store where
  documents := store.documents
  ownedBy owner := store.documents.filter fun d => d.owner = owner
  sharedWith? := fieldOf? store.shares

end MemoryStore

end ContentQuery

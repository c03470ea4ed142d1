import ContentQuery.Document
import ContentQuery.Proofs.Fields

/-!
# ContentQuery.Proofs.Kept

The documents that a store in memory holds, told from the documents that it was made of: one for
each id, the last one given, in the place of the first.
-/

namespace ContentQuery

/-- The last document with an id. -/
def lastOf? (documents : List Document) (id : Text) : Option Document :=
  documents.reverse.find? fun d => d.id = id

/-- For each id the last document, in the order in which the ids were first given. -/
def keptOf (documents : List Document) : List Document :=
  (documents.map (·.id)).eraseDups.filterMap (lastOf? documents)

theorem fieldOf?_byId (documents : List Document) (id : Text) :
    fieldOf? (documents.map fun d => (d.id, d)) id = documents.find? fun d => d.id = id := by
  induction documents with
  | nil => rfl
  | cons d rest ih =>
      rw [List.map_cons, fieldOf?_cons, ih, List.find?_cons]
      by_cases h : d.id = id <;> simp [h]

theorem documents_ofLists (documents : List Document) (shares : List (Text × List Text)) :
    (MemoryStore.ofLists documents shares).documents = keptOf documents := by
  let byId := documents.map fun d => (d.id, d)
  have hnames : (distinctFields byId).map (·.1) = (documents.map (·.id)).eraseDups := by
    rw [names_distinctFields, List.map_map]
    rfl
  have hentries := eq_filterMap_names (nodup_names_distinctFields byId)
  rw [hnames] at hentries
  rw [MemoryStore.documents, MemoryStore.ofLists, hentries, List.map_filterMap, keptOf]
  apply List.filterMap_congr
  intro id _
  rw [fieldOf?_distinctFields, ← List.map_reverse, fieldOf?_byId, lastOf?]
  cases documents.reverse.find? fun d => d.id = id <;> rfl

theorem id_eq_of_lastOf? {documents : List Document} {id : Text} {d : Document}
    (h : lastOf? documents id = some d) : d.id = id := by
  simpa using List.find?_some h

/-- Among the kept documents each id stands once. -/
theorem nodup_ids_keptOf (documents : List Document) : ((keptOf documents).map (·.id)).Nodup := by
  rw [keptOf, List.map_filterMap]
  refine (nodup_eraseDups _).filterMap ?_
  intro first second id hfirst hsecond
  simp only [Option.mem_def, Option.map_eq_some_iff] at hfirst hsecond
  obtain ⟨d, hd, rfl⟩ := hfirst
  obtain ⟨d', hd', hid⟩ := hsecond
  rw [← id_eq_of_lastOf? hd, ← hid, id_eq_of_lastOf? hd']

end ContentQuery

import ContentQuery.Proofs.Fields
import ContentQuery.Proofs.ImportedRows
import Mathlib.Data.List.Lex

/-!
# ContentQuery.Proofs.KeptRows

What is read from the rows that an import has left, of whatever snapshot: the documents of the
snapshot, with the texts that columns keep of their ids, and the share records of documents that it
holds, and nothing else.
-/

namespace ContentQuery

/-! ## The order of keys -/

theorem Text.precedes_iff {a b : Text} : a.precedes b = true ↔ a < b := by
  induction a generalizing b with
  | nil => cases b <;> simp [precedes]
  | cons c a ih =>
      cases b with
      | nil => simp [precedes]
      | cons d b => simp [precedes, ih, List.cons_lt_cons_iff]

/-- Items of distinct keys are sorted in the order of their keys. -/
theorem pairwise_lt_mergeSort {α : Type} (key : α → Text) {items : List α}
    (h : (items.map key).Nodup) :
    (items.mergeSort fun a b => !(key b).precedes (key a)).Pairwise fun a b => key a < key b := by
  have hle (a b : α) : (!(key b).precedes (key a)) = true ↔ key a ≤ key b := by
    rw [Bool.not_eq_true', ← Bool.not_eq_true, Text.precedes_iff, not_lt]
  have hordered : (items.mergeSort fun a b => !(key b).precedes (key a)).Pairwise
      fun a b => (!(key b).precedes (key a)) = true := by
    apply List.pairwise_mergeSort
    · intro a b c hab hbc
      exact (hle a c).mpr (((hle a b).mp hab).trans ((hle b c).mp hbc))
    · intro a b
      rw [Bool.or_eq_true, hle, hle]
      exact le_total _ _
  have hdistinct : (items.mergeSort fun a b => !(key b).precedes (key a)).Pairwise
      fun a b => key a ≠ key b := by
    rw [← List.pairwise_map]
    exact ((List.mergeSort_perm items _).map key).nodup_iff.mpr h
  exact (hordered.and hdistinct).imp fun h => lt_of_le_of_ne ((hle _ _).mp h.1) h.2

/-! ## What is kept -/

/-- The document that is kept of an entry: its id is the text that a column keeps of the id. -/
def SnapshotEntry.keptDocument [Engine] (entry : SnapshotEntry) : Document :=
  ⟨entry.columnKey, entry.owner, .json entry.content, entry.created, entry.modified⟩

namespace Snapshot

/-- The documents that are kept of a snapshot, by id. -/
def keptDocuments [Engine] (snapshot : Snapshot) : List Document :=
  (snapshot.entries.map (·.keptDocument)).mergeSort fun a b => !b.id.precedes a.id

/-- The share record that is kept for a document: there is none unless the snapshot holds the
document. -/
def keptProfiles? (snapshot : Snapshot) (id : Text) : Option (List Text) :=
  Database.recordOf? ((fieldOf? (Database.heldShares snapshot) id).getD [])

end Snapshot

namespace Database

variable {snapshot : Snapshot} {entry : SnapshotEntry} {db next : Database}

/-! ## Documents -/

/-- The row of an entry is read as the document that is kept of it. -/
theorem documentOf_columnRow [Limits] [Engine] (h : entry.content.Fits .file Limits.row) :
    documentOf entry.columnRow = .ok entry.keptDocument := by
  have hcontent : Json.read .file Limits.row (entry.content.write .stored) = .ok entry.content :=
    Json.read_write .stored h.1 h.2
  rw [documentOf, SnapshotEntry.columnRow, hcontent]
  rfl

/-- Documents are read row by row. -/
theorem documentsIn_eq_ok_iff [Limits] {rows : List DocumentRow} {documents : List Document} :
    documentsIn rows = .ok documents ↔ rows.mapM documentOf = .ok documents :=
  mapError_eq_ok_iff

theorem owner_of_documentOf [Limits] {row : DocumentRow} {d : Document}
    (h : documentOf row = .ok d) : d.owner = row.owner := by
  obtain ⟨content, -, h⟩ := bind_eq_ok_iff.mp h
  rw [← Except.ok.inj h]

/-- All documents of a snapshot are read from its rows. -/
theorem allDocuments_keptRows [Limits] [Engine] (h : snapshot.IsAccepted) :
    (keptRows snapshot).allDocuments = .ok snapshot.keptDocuments := by
  let byKey := snapshot.entries.mergeSort fun a b => !b.columnKey.precedes a.columnKey
  have hrows : (keptRows snapshot).sortedRows = byKey.map (·.columnRow) := by
    rw [sortedRows, keptRows]
    symm
    apply List.map_mergeSort
    intro a _ b _
    rfl
  have hdocuments : snapshot.keptDocuments = byKey.map (·.keptDocument) := by
    rw [Snapshot.keptDocuments]
    symm
    apply List.map_mergeSort
    intro a _ b _
    rfl
  rw [allDocuments, documentsIn_eq_ok_iff, hrows, hdocuments]
  apply mapM_map_eq_ok
  intro entry hentry
  exact documentOf_columnRow (h.fits_row (List.mem_mergeSort.mp hentry))

/-- The documents of one owner are those of all documents that have this owner, if the owner can be
looked for. -/
theorem documentsOf_eq [Limits] {documents : List Document} (h : db.allDocuments = .ok documents)
    (owner : Text) :
    db.documentsOf owner = lookFor owner (.ok (documents.filter fun d => d.owner = owner)) := by
  rw [documentsOf]
  congr 1
  rw [documentsIn_eq_ok_iff]
  apply mapM_filter_eq_ok _ (documentsIn_eq_ok_iff.mp h)
  intro row d hread
  rw [owner_of_documentOf hread]

/-! ## Share records -/

/-- The rows of share records list for a document what its record does. -/
theorem profiles_of_shareOf {shares : List (Text × List Text)} (h : (shares.map (·.1)).Nodup)
    (id : Text) : (((sharePairs shares).map shareOf).filter fun row => row.document = id).map
      (·.profile) = (fieldOf? shares id).getD [] := by
  -- The rows of one record are all for its document; those of other records are for others.
  have hone (document : Text) (profiles : List Text) :
      ((profiles.map fun profile => shareOf (document, profile)).filter fun row =>
        row.document = id).map (·.profile) = if document = id then profiles else [] := by
    split
    · next heq => simp [List.filter_map, Function.comp_def, shareOf, heq]
    · next hne => simp [shareOf, hne]
  induction shares with
  | nil => rfl
  | cons share shares ih =>
      obtain ⟨hnew, hrest⟩ := List.nodup_cons.mp h
      rw [sharePairs, List.flatMap_cons, List.map_append, List.filter_append, List.map_append,
        List.map_map, ← sharePairs, ih hrest]
      refine (congrArg (· ++ _) (hone share.1 share.2)).trans ?_
      by_cases heq : share.1 = id
      · have hnone : fieldOf? shares id = none := by
          rwa [fieldOf?_eq_none_iff, ← heq]
        rw [if_pos heq, hnone, Option.getD_none, List.append_nil, fieldOf?]
        simp [heq]
      · rw [if_neg heq, List.nil_append, fieldOf?, fieldOf?, List.find?_cons_of_neg (by simpa)]

/-- The share records of the rows of a snapshot are those of documents that it holds. -/
theorem profilesOf?_keptRows [Limits] [Engine] (h : snapshot.IsAccepted) (id : Text) :
    (keptRows snapshot).profilesOf? id = snapshot.keptProfiles? id := by
  have hnames : ((heldShares snapshot).map (·.1)).Nodup :=
    h.shares.sublist (List.filter_sublist.map _)
  rw [profilesOf?, keptRows, profiles_of_shareOf hnames, Snapshot.keptProfiles?]

theorem mem_recordOf?_iff {profiles : List Text} {user : Text} :
    user ∈ (recordOf? profiles).getD [] ↔ user ∈ profiles := by
  cases profiles with
  | nil => rfl
  | cons profile profiles =>
      unfold recordOf?
      rw [Option.getD_some, List.mem_mergeSort]

/-! ## Stores that keep a snapshot -/

/-- Whether a store keeps a snapshot: its rows are those of the snapshot and no others, and what is
read from them are its documents and the share records of documents that it holds. -/
structure Keeps [Limits] [Engine] (db : Database) (snapshot : Snapshot) : Prop where
  rows : db = keptRows snapshot
  keys : snapshot.HasDistinctKeys
  /-- An id that is a text is kept as it is. -/
  texts : ∀ entry ∈ snapshot.entries, ∀ id, entry.id = .string id → entry.columnKey = id
  documents : db.allDocuments = .ok snapshot.keptDocuments
  ordered : snapshot.keptDocuments.Pairwise fun d e => d.id < e.id
  owned : ∀ owner, db.documentsOf owner =
    lookFor owner (.ok (snapshot.keptDocuments.filter fun d => d.owner = owner))
  shares : ∀ id, db.sharedWith? id = lookFor id (.ok (snapshot.keptProfiles? id))

/-- What an import leaves keeps the snapshot, whatever rows there were before. -/
theorem keeps_of_replaceBy [Limits] [Engine] (haccepted : snapshot.IsAccepted)
    (h : (db.replaceBy snapshot).result = .ok next) : next.Keeps snapshot := by
  obtain ⟨hkeys, -, -, rfl⟩ := (replaceBy_eq_ok_iff haccepted db).mp h
  have hall := allDocuments_keptRows haccepted
  have hids : ((snapshot.entries.map (·.keptDocument)).map (·.id)).Nodup := by
    rw [List.map_map]
    exact hkeys.distinct
  exact {
    rows := rfl
    keys := hkeys
    texts := fun entry hentry id hid => columnKey_eq_of_string hid (hkeys.kept entry hentry)
    documents := hall
    ordered := pairwise_lt_mergeSort Document.id hids
    owned := documentsOf_eq hall
    shares := fun id => by rw [sharedWith?, profilesOf?_keptRows haccepted] }

end Database

end ContentQuery

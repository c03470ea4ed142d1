import ContentQuery.Document
import ContentQuery.Proofs.AcceptedSnapshot
import ContentQuery.Proofs.ColumnText

/-!
# ContentQuery.Proofs.ImportedRows

The rows that an import brings: those of the documents and share records of the snapshot and none
besides, whatever rows there were before. An import fails exactly if a text has no octets, or if a
column does not keep a text of each id and different texts of different documents.
-/

namespace ContentQuery

/-! ## What a snapshot is made of -/

namespace SnapshotEntry

/-- The id of a document as a text. Any value but a text has none. -/
def key (entry : SnapshotEntry) : Text :=
  match entry.id with
  | .string id => id
  | _ => []

/-- The document that an entry gives. -/
def document (entry : SnapshotEntry) : Document :=
  ⟨entry.key, entry.owner, .json entry.content, entry.created, entry.modified⟩

/-- The text that a column keeps of the id of an entry; the empty text if it keeps none. -/
def columnKey [Engine] (entry : SnapshotEntry) : Text :=
  match Database.columnId entry.id with
  | .ok (some id) => id
  | _ => []

/-- The row for an entry, with the text that a column keeps of its id. -/
def columnRow [Engine] (entry : SnapshotEntry) : DocumentRow :=
  ⟨entry.columnKey, entry.owner, entry.content.write .stored, entry.created, entry.modified⟩

/-- Whether there is a row for an entry: a column keeps a text of its id, and its owner has
octets. -/
structure HasRow [Engine] (entry : SnapshotEntry) : Prop where
  id : Database.columnId entry.id = .ok (some entry.columnKey)
  owner : entry.owner.IsWellFormed

end SnapshotEntry

namespace Snapshot

variable {snapshot : Snapshot}

/-- The share records of documents that the snapshot holds. -/
def knownShares (snapshot : Snapshot) : List (Text × List Text) :=
  snapshot.shares.filter fun share => share.1 ∈ snapshot.entries.map (·.key)

/-- Whether the texts of a snapshot have octets: those of ids, owners and profiles. -/
structure HasOctets (snapshot : Snapshot) : Prop where
  ids : ∀ entry ∈ snapshot.entries, ∀ id, entry.id = .string id → id.IsWellFormed
  owners : ∀ entry ∈ snapshot.entries, entry.owner.IsWellFormed
  profiles : ∀ share ∈ snapshot.shares, ∀ profile ∈ share.2, profile.IsWellFormed

/-- Whether a column keeps a text of each id, and different ones of different documents. -/
structure HasDistinctKeys [Engine] (snapshot : Snapshot) : Prop where
  kept : ∀ entry ∈ snapshot.entries, Database.columnId entry.id = .ok (some entry.columnKey)
  distinct : (snapshot.entries.map (·.columnKey)).Nodup

/-- Whether a snapshot can be stored: its ids are distinct texts, and ids, owners and profiles have
octets. -/
structure IsStorable (snapshot : Snapshot) : Prop where
  ids : ∀ entry ∈ snapshot.entries, ∃ id, entry.id = .string id ∧ id.IsWellFormed
  distinct : (snapshot.entries.map (·.id)).Nodup
  owners : ∀ entry ∈ snapshot.entries, entry.owner.IsWellFormed
  profiles : ∀ share ∈ snapshot.shares, ∀ profile ∈ share.2, profile.IsWellFormed

/-- The ids of a snapshot that can be stored are texts with octets. -/
theorem IsStorable.id_eq (h : snapshot.IsStorable) {entry : SnapshotEntry}
    (hentry : entry ∈ snapshot.entries) :
    entry.id = .string entry.key ∧ entry.key.IsWellFormed := by
  obtain ⟨id, hid, hwell⟩ := h.ids entry hentry
  rw [SnapshotEntry.key, hid]
  exact ⟨rfl, hwell⟩

/-- These texts are distinct. -/
theorem IsStorable.nodup_keys (h : snapshot.IsStorable) :
    (snapshot.entries.map (·.key)).Nodup := by
  apply List.Nodup.of_map Json.string
  have hids : (snapshot.entries.map (·.key)).map Json.string = snapshot.entries.map (·.id) := by
    rw [List.map_map]
    exact List.map_congr_left fun entry hentry => (h.id_eq hentry).1.symm
  rw [hids]
  exact h.distinct

/-- What can be stored has octets. -/
theorem IsStorable.hasOctets (h : snapshot.IsStorable) : snapshot.HasOctets where
  ids entry hentry id hid := by
    obtain ⟨hkey, hwell⟩ := h.id_eq hentry
    rw [hid, Json.string.injEq] at hkey
    rwa [hkey]
  owners := h.owners
  profiles := h.profiles

end Snapshot

namespace Database

variable {snapshot : Snapshot} {entry : SnapshotEntry} {db next : Database}

/-! ## Ids -/

/-- A column keeps nothing of arrays and objects, which cannot be looked up either. -/
theorem isSimple_of_columnId [Engine] {id : Json} {column : Option Text}
    (h : columnId id = .ok column) : isSimple id = true := by
  cases id with
  | array items => contradiction
  | object fields => contradiction
  | _ => rfl

theorem columnKey_eq [Engine] {id : Text} (h : columnId entry.id = .ok (some id)) :
    entry.columnKey = id := by
  rw [SnapshotEntry.columnKey, h]

/-- An id that is a text with octets is kept as it is. -/
theorem columnId_string [Engine] {id : Text} (h : id.IsWellFormed) :
    columnId (.string id) = .ok (some id) := by
  rw [columnId, columnText_eq_ok h]
  rfl

/-- If a column keeps anything of an id that is a text, then the text as it is. -/
theorem columnKey_eq_of_string [Engine] {id : Text} (hid : entry.id = .string id)
    (hkept : columnId entry.id = .ok (some entry.columnKey)) : entry.columnKey = id := by
  rw [hid] at hkept
  obtain ⟨column, hcolumn, hsame⟩ := map_eq_ok_iff.mp hkept
  rw [← Option.some.inj hsame]
  exact (columnText_eq_ok_iff.mp hcolumn).1

/-- The keys of a snapshot that can be stored are its ids. -/
theorem hasDistinctKeys_of_isStorable [Engine] (h : snapshot.IsStorable) :
    snapshot.HasDistinctKeys ∧ ∀ entry ∈ snapshot.entries, entry.columnKey = entry.key := by
  have hcolumn {entry : SnapshotEntry} (hentry : entry ∈ snapshot.entries) :
      columnId entry.id = .ok (some entry.key) := by
    obtain ⟨hid, hkey⟩ := h.id_eq hentry
    rw [hid, columnId_string hkey]
  have hkeys : ∀ entry ∈ snapshot.entries, entry.columnKey = entry.key :=
    fun entry hentry => columnKey_eq (hcolumn hentry)
  refine ⟨⟨fun entry hentry => ?_, ?_⟩, hkeys⟩
  · rw [hkeys entry hentry]
    exact hcolumn hentry
  · rw [List.map_congr_left hkeys]
    exact h.nodup_keys

/-! ## Rows of documents -/

/-- An entry is made into its row if there is one. -/
theorem documentRow_eq_ok_iff [Engine] {row : DocumentRow} :
    documentRow entry = .ok row ↔ entry.HasRow ∧ row = entry.columnRow := by
  constructor
  · intro h
    unfold documentRow at h
    simp only [bind_eq_ok_iff] at h
    obtain ⟨column, hcolumn, owner, howner, h⟩ := h
    obtain ⟨rfl, hoctets⟩ := columnText_eq_ok_iff.mp howner
    cases column with
    | none => contradiction
    | some id =>
        obtain rfl := columnKey_eq hcolumn
        exact ⟨⟨hcolumn, hoctets⟩, (Except.ok.inj h).symm⟩
  · rintro ⟨⟨hid, howner⟩, rfl⟩
    rw [documentRow, hid, columnText_eq_ok howner]
    rfl

/-- A document is written where no row has its id. -/
theorem insertDocument_eq_ok_iff [Engine] : insertDocument db entry = .ok next ↔
    entry.HasRow ∧ entry.columnKey ∉ db.documents.map (·.id) ∧
      next = ⟨db.documents ++ [entry.columnRow], db.shares⟩ := by
  unfold insertDocument
  simp only [bind_eq_ok_iff, documentRow_eq_ok_iff, and_assoc, exists_and_left, exists_eq_left]
  apply and_congr_right
  intro _
  have hknown : (db.documents.any fun other => other.id = entry.columnRow.id) = true ↔
      entry.columnKey ∈ db.documents.map (·.id) := by
    simp only [List.any_eq_true, decide_eq_true_iff, List.mem_map]
    rfl
  split
  · next h =>
      simp only [hknown.mp h, not_true_eq_false, false_and, iff_false]
      exact nofun
  · next h =>
      rw [hknown] at h
      simp [h, pure, Except.pure, eq_comm]

/-! ## Rows of share records -/

theorem holds_eq_true_iff (id : Text) :
    holds snapshot id = true ↔ ∃ entry ∈ snapshot.entries, entry.id = .string id := by
  rw [holds, List.any_eq_true]
  apply exists_congr
  intro entry
  apply and_congr_right
  intro _
  cases entry.id <;> simp

/-- A snapshot that can be stored holds the documents whose keys it has. -/
theorem holds_iff (h : snapshot.IsStorable) (id : Text) :
    holds snapshot id = true ↔ id ∈ snapshot.entries.map (·.key) := by
  rw [holds_eq_true_iff, List.mem_map]
  constructor
  · rintro ⟨entry, hentry, hid⟩
    have hkey := (h.id_eq hentry).1
    rw [hid, Json.string.injEq] at hkey
    exact ⟨entry, hentry, hkey.symm⟩
  · rintro ⟨entry, hentry, rfl⟩
    exact ⟨entry, hentry, (h.id_eq hentry).1⟩

/-- The share records of a snapshot that are written. -/
def heldShares (snapshot : Snapshot) : List (Text × List Text) :=
  snapshot.shares.filter fun share => holds snapshot share.1

/-- They are those of the documents that the snapshot has, if it can be stored. -/
theorem heldShares_eq (h : snapshot.IsStorable) : heldShares snapshot = snapshot.knownShares :=
  List.filter_congr fun share _ => by rw [Bool.eq_iff_iff, holds_iff h, decide_eq_true_iff]

/-- No pair of a document and a profile repeats if neither documents nor the profiles of one record
do. -/
theorem nodup_sharePairs {shares : List (Text × List Text)} (hnames : (shares.map (·.1)).Nodup)
    (hprofiles : ∀ share ∈ shares, share.2.Nodup) : (sharePairs shares).Nodup := by
  rw [sharePairs, List.nodup_flatMap]
  constructor
  · intro share hshare
    exact (hprofiles share hshare).map fun _ _ heq => (Prod.mk.inj heq).2
  · rw [List.Nodup, List.pairwise_map] at hnames
    refine hnames.imp ?_
    intro share other hne pair hpair hother
    obtain ⟨_, -, rfl⟩ := List.mem_map.mp hpair
    obtain ⟨_, -, heq⟩ := List.mem_map.mp hother
    exact hne (Prod.mk.inj heq).1.symm

/-- The row for a document and a profile. -/
def shareOf (pair : Text × Text) : ShareRow := ⟨pair.1, pair.2⟩

/-- Whether there is a row for a document and a profile: both have octets. -/
def HasShareRow (pair : Text × Text) : Prop := pair.1.IsWellFormed ∧ pair.2.IsWellFormed

/-- A document and a profile are made into their row if there is one. -/
theorem shareRow_eq_ok_iff {pair : Text × Text} {row : ShareRow} :
    shareRow pair.1 pair.2 = .ok row ↔ HasShareRow pair ∧ row = shareOf pair := by
  unfold shareRow
  simp only [bind_eq_ok_iff, columnText_eq_ok_iff]
  constructor
  · rintro ⟨document, ⟨rfl, hdocument⟩, profile, ⟨rfl, hprofile⟩, h⟩
    exact ⟨⟨hdocument, hprofile⟩, (Except.ok.inj h).symm⟩
  · rintro ⟨⟨hdocument, hprofile⟩, rfl⟩
    exact ⟨_, ⟨rfl, hdocument⟩, _, ⟨rfl, hprofile⟩, rfl⟩

/-- A profile is written where there is no row for it and the document. -/
theorem insertShare_eq_ok_iff {pair : Text × Text} : insertShare db pair = .ok next ↔
    HasShareRow pair ∧ shareOf pair ∉ db.shares ∧
      next = ⟨db.documents, db.shares ++ [shareOf pair]⟩ := by
  unfold insertShare
  simp only [bind_eq_ok_iff, shareRow_eq_ok_iff, and_assoc, exists_and_left, exists_eq_left]
  apply and_congr_right
  intro _
  split
  · next h =>
      simp only [h, not_true_eq_false, false_and, iff_false]
      exact nofun
  · next h => simp [h, pure, Except.pure, eq_comm]

/-- What is written of share records has octets if the snapshot has. -/
theorem hasShareRow_of_mem (h : snapshot.HasOctets) {pair : Text × Text}
    (hpair : pair ∈ sharePairs (heldShares snapshot)) : HasShareRow pair := by
  obtain ⟨share, hshare, hprofile⟩ := List.mem_flatMap.mp hpair
  obtain ⟨profile, hlisted, rfl⟩ := List.mem_map.mp hprofile
  obtain ⟨hshare, hheld⟩ := List.mem_filter.mp hshare
  obtain ⟨entry, hentry, hid⟩ := (holds_eq_true_iff share.1).mp hheld
  exact ⟨h.ids entry hentry share.1 hid, h.profiles share hshare profile hlisted⟩

/-! ## Imports -/

/-- The rows that are kept of a snapshot: those of its documents, with the texts that a column keeps
of their ids, and those of the share records of these documents. -/
def keptRows [Engine] (snapshot : Snapshot) : Database :=
  ⟨snapshot.entries.map (·.columnRow), (sharePairs (heldShares snapshot)).map shareOf⟩

/-- Adding the documents of a snapshot to an empty store brings their rows. -/
theorem foldlM_insertDocument_eq_ok_iff [Engine] :
    snapshot.entries.foldlM insertDocument empty = .ok next ↔
      (∀ entry ∈ snapshot.entries, entry.HasRow) ∧
        (snapshot.entries.map (·.columnKey)).Nodup ∧
        next = ⟨snapshot.entries.map (·.columnRow), []⟩ := by
  have hnone : (([] : List DocumentRow).map DocumentRow.id).Nodup := List.nodup_nil
  have hkeys : ([] ++ snapshot.entries.map SnapshotEntry.columnRow).map DocumentRow.id =
      snapshot.entries.map (·.columnKey) := by
    rw [List.nil_append, List.map_map]
    rfl
  refine (foldlM_append_eq_ok_iff (fun rows => Database.mk rows []) SnapshotEntry.columnRow
    DocumentRow.id (fun _ _ _ => insertDocument_eq_ok_iff) hnone).trans ?_
  rw [hkeys, List.nil_append]

/-- Adding the share records of documents that the snapshot holds brings a row for each profile. -/
theorem foldlM_insertShare_eq_ok_iff [Limits] (haccepted : snapshot.IsAccepted)
    (documents : List DocumentRow) :
    (sharePairs (heldShares snapshot)).foldlM insertShare ⟨documents, []⟩ = .ok next ↔
      (∀ pair ∈ sharePairs (heldShares snapshot), HasShareRow pair) ∧
        next = ⟨documents, (sharePairs (heldShares snapshot)).map shareOf⟩ := by
  have hpairs : (sharePairs (heldShares snapshot)).Nodup :=
    nodup_sharePairs (haccepted.shares.sublist (List.filter_sublist.map _))
      fun share hshare => haccepted.profiles share (List.mem_of_mem_filter hshare)
  have hkeys : (([] ++ (sharePairs (heldShares snapshot)).map shareOf).map id).Nodup := by
    rw [List.nil_append, List.map_id]
    exact hpairs.map fun _ _ heq => Prod.ext (ShareRow.mk.inj heq).1 (ShareRow.mk.inj heq).2
  have hnone : (([] : List ShareRow).map id).Nodup := List.nodup_nil
  have hstep (pair : Text × Text) (rows : List ShareRow) (next : Database) :
      insertShare ⟨documents, rows⟩ pair = .ok next ↔ HasShareRow pair ∧
        id (shareOf pair) ∉ rows.map id ∧ next = ⟨documents, rows ++ [shareOf pair]⟩ := by
    rw [List.map_id]
    exact insertShare_eq_ok_iff
  refine (foldlM_append_eq_ok_iff (Database.mk documents) shareOf id hstep hnone).trans ?_
  rw [and_iff_right hkeys, List.nil_append]

/-- An import succeeds exactly if a column keeps different texts of the ids and what is written has
octets, and then it leaves the rows of the snapshot and no others. -/
theorem replaceBy_eq_ok_iff [Limits] [Engine] (haccepted : snapshot.IsAccepted) (db : Database) :
    (db.replaceBy snapshot).result = .ok next ↔ snapshot.HasDistinctKeys ∧
      (∀ entry ∈ snapshot.entries, entry.owner.IsWellFormed) ∧
      (∀ pair ∈ sharePairs (heldShares snapshot), HasShareRow pair) ∧
      next = keptRows snapshot := by
  have hcleared : db.deleteShares.deleteDocuments = empty := rfl
  unfold replaceBy
  rw [List.partition_eq_filter_filter, hcleared]
  split
  · simp only [bind_eq_ok_iff, foldlM_insertDocument_eq_ok_iff]
    constructor
    · rintro ⟨_, ⟨hrows, hdistinct, rfl⟩, hshares⟩
      obtain ⟨hpairs, hnext⟩ := (foldlM_insertShare_eq_ok_iff haccepted _).mp hshares
      exact ⟨⟨fun entry hentry => (hrows entry hentry).id, hdistinct⟩,
        fun entry hentry => (hrows entry hentry).owner, hpairs, hnext⟩
    · rintro ⟨hkeys, howners, hpairs, hnext⟩
      exact ⟨_, ⟨fun entry hentry => ⟨hkeys.kept entry hentry, howners entry hentry⟩,
        hkeys.distinct, rfl⟩, (foldlM_insertShare_eq_ok_iff haccepted _).mpr ⟨hpairs, hnext⟩⟩
  · next hcomposite =>
      constructor
      · exact nofun
      · rintro ⟨hkeys, -⟩
        refine absurd (List.all_eq_true.mpr fun entry hentry => ?_) hcomposite
        exact isSimple_of_columnId (hkeys.kept entry hentry)

/-- An import of a snapshot whose texts have octets succeeds exactly if a column keeps different
texts of the ids. -/
theorem exists_replaceBy_iff [Limits] [Engine] (haccepted : snapshot.IsAccepted)
    (hoctets : snapshot.HasOctets) (db : Database) :
    (∃ next, (db.replaceBy snapshot).result = .ok next) ↔ snapshot.HasDistinctKeys := by
  simp only [replaceBy_eq_ok_iff haccepted]
  constructor
  · rintro ⟨_, hkeys, -⟩
    exact hkeys
  · exact fun hkeys => ⟨_, hkeys, hoctets.owners, fun _ => hasShareRow_of_mem hoctets, rfl⟩

/-- What can be stored is imported. -/
theorem replaceBy_of_isStorable [Limits] [Engine] (haccepted : snapshot.IsAccepted)
    (h : snapshot.IsStorable) (db : Database) :
    (db.replaceBy snapshot).result = .ok (keptRows snapshot) :=
  (replaceBy_eq_ok_iff haccepted db).mpr ⟨(hasDistinctKeys_of_isStorable h).1, h.owners,
    fun _ => hasShareRow_of_mem h.hasOctets, rfl⟩

end Database

end ContentQuery

import ContentQuery.Proofs.KeptRows
import ContentQuery.Proofs.Sessions
import ContentQuery.Proofs.Transactions

/-!
# ContentQuery.Proofs.LoadableSnapshot

Which snapshots can be loaded once they have been read: those of whose ids a column keeps a text,
and a different text for each document. A document that gives no id of its own has that of its key,
and keys are distinct, so an id that a document gives itself is the only thing that can be in the
way.
-/

namespace ContentQuery

namespace Snapshot

variable {snapshot : Snapshot} {tree : FileTree} {working : Location} {path : Text}
  {documents : List (Text × Json)}

/-! ## The documents of a file -/

/-- Whether the file at a path has these values as its documents, each under its key. -/
def HasDocuments [Limits] (tree : FileTree) (working : Location) (path : Text)
    (documents : List (Text × Json)) : Prop :=
  ∃ octets s fields, tree.read working path = .ok octets ∧
    Utf8.encode s = some octets ∧ Json.read .file Limits.snapshot s = .ok (.object fields) ∧
    (section? fields "documents") = some documents

/-- What has been read is one entry for each of the documents of the file, whose keys are
distinct. -/
theorem entries_of_load [Limits] (h : load tree working path = .ok snapshot)
    (hdocuments : HasDocuments tree working path documents) :
    List.Forall₂ (fun document entry => readEntry document.1 document.2 = .ok entry) documents
      snapshot.entries ∧ (documents.map (·.1)).Nodup := by
  obtain ⟨octets, s, fields, hoctets, hs, hread, hdocuments⟩ := hdocuments
  have hdecode := Utf8.decode_eq_some_iff.mpr hs
  have hfits := Json.fits_of_read rfl (Utf8.isWellFormed_of_decode hdecode) hread
  obtain ⟨-, _, _, hsame, hform, h⟩ := load_eq_ok_iff.mp h
  obtain rfl := Except.ok.inj (hoctets.symm.trans hsame)
  obtain rfl := Option.some.inj (hdecode.symm.trans (Utf8.decode_eq_some_iff.mpr hform))
  rw [ofText, hread] at h
  obtain ⟨_, found, records, hfields, hfound, -, hentries, -⟩ := ofJson_eq_ok_iff.mp h
  obtain rfl := Json.object.inj hfields
  obtain rfl := Option.some.inj (hdocuments.symm.trans hfound)
  obtain ⟨room, hroom⟩ := Nat.exists_eq_add_of_le' Limits.three_le_snapshot
  rw [hroom] at hfits
  exact ⟨mapM_eq_ok_iff.mp hentries, (fits_of_section? hfits hdocuments).1⟩

/-! ## Ids -/

/-- Texts that a column keeps of the ids, one after another, tell the documents apart if none of
them repeats. -/
theorem hasDistinctKeys_of_columns [Engine] {ids : List Text}
    (hcolumns : List.Forall₂ (fun entry id => Database.columnId entry.id = .ok (some id))
      snapshot.entries ids) (hids : ids.Nodup) : snapshot.HasDistinctKeys := by
  have hkeys : List.Forall₂ (fun entry id =>
      Database.columnId entry.id = .ok (some entry.columnKey) ∧ entry.columnKey = id)
        snapshot.entries ids := by
    refine hcolumns.imp fun entry id hid => ?_
    rw [Database.columnKey_eq hid]
    exact ⟨hid, rfl⟩
  obtain ⟨hkept, hsame⟩ := (List.forall₂_and_left _ _).mp hkeys
  refine ⟨hkept, ?_⟩
  rw [← List.forall₂_map_left_iff, List.forall₂_eq_eq_eq] at hsame
  rwa [hsame]

/-- Documents that have the ids of their keys can be told apart. -/
theorem hasDistinctKeys_of_idOf [Engine] (hoctets : snapshot.HasOctets)
    (hentries : List.Forall₂ (fun document entry => readEntry document.1 document.2 = .ok entry)
      documents snapshot.entries) (hkeys : (documents.map (·.1)).Nodup)
    (hids : ∀ key fields, (key, Json.object fields) ∈ documents → idOf key fields = .string key) :
    snapshot.HasDistinctKeys := by
  have hlisted := (List.forall₂_and_left _ _).mpr ⟨fun document hdocument => hdocument, hentries⟩
  have hmembers := (List.forall₂_and_left _ _).mpr ⟨fun entry hentry => hentry, hlisted.flip⟩
  refine hasDistinctKeys_of_columns (List.forall₂_map_right_iff.mpr (hmembers.imp ?_)) hkeys
  rintro entry ⟨key, value⟩ ⟨hentry, hdocument, hread⟩
  obtain ⟨fields, _, rfl, -, -, -, -, hid, -⟩ := readEntry_eq_ok_iff.mp hread
  rw [hids key fields hdocument] at hid
  rw [hid, Database.columnId_string (hoctets.ids entry hentry key hid)]

end Snapshot

/-! ## Loads -/

namespace FileTree

variable {tree : FileTree} {place working : Location} {path : Text} {create : Bool}
  {store : OpenStore} {snapshot : Snapshot}

/-- A load that ends well has replaced the rows of the store. -/
theorem Opens.loaded [Limits] [Engine] [Engine.Lawful] (h : tree.Opens place store)
    (hread : Snapshot.load store.tree working path = .ok snapshot) {report : Transaction.Report}
    (hreport : (tree.session place create fun store =>
      Transaction.load store.tree working path).2 = .ok report) :
    ∃ db, (store.database.replaceBy snapshot).result = .ok db ∧
      report.count = snapshot.entries.length ∧
      (tree.session place create fun store =>
        Transaction.load store.tree working path).1.rows? place = some db := by
  rcases h.session_cases create fun store => Transaction.load store.tree working path with
    ⟨_, db, hrun, hended, hkept⟩ | ⟨e, written, -, hended, -⟩
  · obtain rfl := Except.ok.inj (hended.symm.trans hreport)
    obtain ⟨found, hfound, hresult, rfl⟩ := Transaction.carryOut_load_eq_ok_iff.mp hrun
    obtain rfl := Except.ok.inj (hread.symm.trans hfound)
    exact ⟨db, hresult, rfl, hkept⟩
  · rw [hended] at hreport
    contradiction

/-- A load ends well exactly if the rows of the store can be replaced. -/
theorem Opens.exists_report_iff [Limits] [Engine] [Engine.Lawful] (h : tree.Opens place store)
    (hread : Snapshot.load store.tree working path = .ok snapshot) :
    (∃ report, (tree.session place create fun store =>
      Transaction.load store.tree working path).2 = .ok report) ↔
      ∃ db, (store.database.replaceBy snapshot).result = .ok db := by
  constructor
  · rintro ⟨report, hreport⟩
    obtain ⟨db, hresult, -⟩ := h.loaded hread hreport
    exact ⟨db, hresult⟩
  · rintro ⟨db, hresult⟩
    have hload := Transaction.carryOut_load_eq_ok_iff.mpr ⟨snapshot, hread, hresult, rfl⟩
    rcases h.session_cases create fun store => Transaction.load store.tree working path with
      ⟨report, _, -, hended, -⟩ | ⟨e, written, hrun, -⟩
    · exact ⟨report, hended⟩
    · have hends := (Prod.mk.inj (hrun.symm.trans hload)).1
      contradiction

end FileTree

/-- A snapshot that has been read is loaded into a store that is there exactly if a column keeps a
text of each id and a different one for each document, which is so if all documents have the ids of
their keys. A load reports the number of documents in the file, each of which has been read as one
entry and then has one row, and the rows are read as the documents and share records of the
snapshot. -/
theorem loads_iff_distinct_keys [Limits] [Engine] [Engine.Lawful] {tree : FileTree}
    {place working : Location} {path : Text} {create : Bool} {rows : Database}
    {snapshot : Snapshot} {documents : List (Text × Json)}
    (hrows : tree.rows? place = some rows)
    (hread : Snapshot.load (tree.openStore place create).1 working path = .ok snapshot)
    (hdocuments : Snapshot.HasDocuments (tree.openStore place create).1 working path documents)
    (hoctets : snapshot.HasOctets) :
    let ended := tree.session place create fun store => Transaction.load store.tree working path
    List.Forall₂ (fun document entry => Snapshot.readEntry document.1 document.2 = .ok entry)
      documents snapshot.entries ∧
    ((∃ report, ended.2 = .ok report) ↔ snapshot.HasDistinctKeys) ∧
    ((∀ key fields, (key, Json.object fields) ∈ documents →
      Snapshot.idOf key fields = .string key) → snapshot.HasDistinctKeys) ∧
    ∀ report, ended.2 = .ok report → report.count = documents.length ∧
      ∃ db, ended.1.rows? place = some db ∧ db.Keeps snapshot := by
  intro ended
  obtain ⟨store, hopen, rfl⟩ := FileTree.rows?_eq_some_iff.mp hrows
  obtain ⟨hentries, hkeys⟩ := Snapshot.entries_of_load hread hdocuments
  have haccepted := Snapshot.isAccepted_of_load hread
  rw [hopen.openStore_eq] at hread
  refine ⟨hentries, ?_, Snapshot.hasDistinctKeys_of_idOf hoctets hentries hkeys, ?_⟩
  · rw [← Database.exists_replaceBy_iff haccepted hoctets store.database]
    exact hopen.exists_report_iff hread
  · intro report hreport
    obtain ⟨db, hresult, hcount, hkept⟩ := hopen.loaded hread hreport
    exact ⟨hcount.trans hentries.length_eq.symm, db, hkept,
      Database.keeps_of_replaceBy haccepted hresult⟩

namespace Sample

/-- A document of a snapshot that gives itself an id. -/
def identified (id : Json) : Json :=
  .object [("owner_id", .string "o"), ("creation_date", .string "0001-01-01"), ("id", id)]

/-- What it is read as. -/
def entry (id : Json) : SnapshotEntry := ⟨id, "o", .null, start, start⟩

/-- The value of a snapshot with given documents. -/
def documentsValue (documents : List (Text × Json)) : Json :=
  .object [("documents", .object documents)]

/-- The octets of a file with this snapshot. -/
def documentsOctets (documents : List (Text × Json)) : List UInt8 :=
  (Utf8.encode ((documentsValue documents).write .stored)).getD []

/-- A directory with an empty store and a file with given documents. -/
def besideStore (documents : List (Text × Json)) : FileTree :=
  ⟨[(["d"], .store .empty), (["s"], .file (documentsOctets documents))]⟩

/-- What loading the file into the store comes to. -/
def loadedBesideStore (documents : List (Text × Json)) :
    FileTree × Except (SessionError LoadError) Transaction.Report :=
  (besideStore documents).session ["d"] false fun store => Transaction.load store.tree [] "s"

theorem rows?_besideStore (documents : List (Text × Json)) :
    (besideStore documents).rows? ["d"] = some .empty := rfl

theorem read_besideStore (documents : List (Text × Json)) :
    ((besideStore documents).openStore ["d"] false).1.read [] "s" =
      .ok (documentsOctets documents) := rfl

/-- Documents of which one has a truth value as its id and the other the id of its key. -/
def flagged : List (Text × Json) := [("a", identified (.bool true)), ("b", identified .null)]

/-- Documents that have the same id. -/
def twins : List (Text × Json) :=
  [("a", identified (.string "x")), ("b", identified (.string "x"))]

/-- A document with an array as its id. -/
def listed : List (Text × Json) := [("a", identified (.array [.null]))]

/-- What the file is read as, if the documents are readable and read as entries. -/
theorem load_besideStore {documents : List (Text × Json)} {entries : List SnapshotEntry}
    (htext : Utf8.encode ((documentsValue documents).write .stored) =
      some (documentsOctets documents))
    (hreadable : (documentsValue documents).IsReadable .file)
    (hdepth : (documentsValue documents).depth ≤ Limits.snapshot)
    (hentries : Snapshot.ofJson (documentsValue documents) = .ok ⟨entries, []⟩) :
    Snapshot.load ((besideStore documents).openStore ["d"] false).1 [] "s" = .ok ⟨entries, []⟩ ∧
      Snapshot.HasDocuments ((besideStore documents).openStore ["d"] false).1 [] "s" documents := by
  have hoctets := read_besideStore documents
  constructor
  · refine Snapshot.load_eq_ok_iff.mpr ⟨rfl, _, _, hoctets, htext, ?_⟩
    rw [Snapshot.ofText_write .stored hreadable hdepth, hentries]
  · exact ⟨_, _, _, hoctets, htext, Json.read_write .stored hreadable hdepth, rfl⟩

theorem hasOctets_of_entries {entries : List SnapshotEntry} (h : ∀ e ∈ entries,
    (∀ id, e.id = .string id → id.IsWellFormed) ∧ e.owner.IsWellFormed) :
    Snapshot.HasOctets ⟨entries, []⟩ where
  ids e he := (h e he).1
  owners e he := (h e he).2
  profiles _ hshare := absurd hshare List.not_mem_nil

/-- What has been loaded has ids that can be told apart. -/
theorem hasDistinctKeys_of_loaded {documents : List (Text × Json)} {snapshot : Snapshot}
    {report : Transaction.Report} (hoctets : snapshot.HasOctets)
    (hread : Snapshot.load ((besideStore documents).openStore ["d"] false).1 [] "s" = .ok snapshot)
    (hreport : (loadedBesideStore documents).2 = .ok report) : snapshot.HasDistinctKeys := by
  obtain ⟨store, hopen, -⟩ := FileTree.rows?_eq_some_iff.mp (rows?_besideStore documents)
  have haccepted := Snapshot.isAccepted_of_load hread
  rw [hopen.openStore_eq] at hread
  rw [← Database.exists_replaceBy_iff haccepted hoctets store.database,
    ← hopen.exists_report_iff hread]
  exact ⟨report, hreport⟩

theorem flagged_loads : Snapshot.load ((besideStore flagged).openStore ["d"] false).1 [] "s" =
      .ok ⟨[entry (.bool true), entry (.string "b")], []⟩ ∧
    Snapshot.HasDocuments ((besideStore flagged).openStore ["d"] false).1 [] "s" flagged := by
  refine load_besideStore (by decide +kernel) ?_ (by decide) rfl
  simp only [documentsValue, flagged, identified, Json.IsReadable, Json.FieldsReadable]
  and_intros <;> decide

theorem hasOctets_flagged :
    Snapshot.HasOctets ⟨[entry (.bool true), entry (.string "b")], []⟩ := by
  apply hasOctets_of_entries
  simp only [List.forall_mem_cons, entry, Json.string.injEq, forall_eq', reduceCtorEq]
  exact ⟨⟨fun _ => False.elim, by decide⟩, ⟨by decide, by decide⟩, List.forall_mem_nil _⟩

theorem hasDistinctKeys_flagged :
    Snapshot.HasDistinctKeys ⟨[entry (.bool true), entry (.string "b")], []⟩ := by
  have hids : [Text.ofString "1", Text.ofString "b"].Nodup := by decide
  exact Snapshot.hasDistinctKeys_of_columns (.cons rfl (.cons rfl .nil)) hids

theorem twins_loads : Snapshot.load ((besideStore twins).openStore ["d"] false).1 [] "s" =
      .ok ⟨[entry (.string "x"), entry (.string "x")], []⟩ ∧
    Snapshot.HasDocuments ((besideStore twins).openStore ["d"] false).1 [] "s" twins := by
  refine load_besideStore (by decide +kernel) ?_ (by decide) rfl
  simp only [documentsValue, twins, identified, Json.IsReadable, Json.FieldsReadable]
  and_intros <;> decide

theorem listed_loads : Snapshot.load ((besideStore listed).openStore ["d"] false).1 [] "s" =
      .ok ⟨[entry (.array [.null])], []⟩ ∧
    Snapshot.HasDocuments ((besideStore listed).openStore ["d"] false).1 [] "s" listed := by
  refine load_besideStore (by decide +kernel) ?_ (by decide) rfl
  simp only [documentsValue, listed, identified, Json.IsReadable, Json.FieldsReadable,
    Json.ItemsReadable]
  and_intros <;> decide

end Sample

open Sample in
/-- A load of two documents, of which one has a truth value as its id: it reports both, and the
store holds them and nothing else. -/
theorem loads_iff_distinct_keys_of_flagged :
    ∃ report, (loadedBesideStore flagged).2 = .ok report ∧ report.count = 2 ∧
      ∃ db, (loadedBesideStore flagged).1.rows? ["d"] = some db ∧
        db.Keeps ⟨[entry (.bool true), entry (.string "b")], []⟩ := by
  obtain ⟨hread, hdocuments⟩ := flagged_loads
  obtain ⟨-, hloads, -, hloaded⟩ :=
    loads_iff_distinct_keys (rows?_besideStore flagged) hread hdocuments hasOctets_flagged
  obtain ⟨report, hreport⟩ := hloads.mpr hasDistinctKeys_flagged
  obtain ⟨hcount, hkept⟩ := hloaded report hreport
  exact ⟨report, hreport, hcount, hkept⟩

open Sample in
/-- Files that are read as snapshots and cannot be loaded into a store that is there: one whose two
documents give themselves the same id, and one with an array as an id. -/
theorem exists_snapshots_not_loaded :
    (besideStore twins).rows? ["d"] = some .empty ∧
    (∃ snapshot, snapshot.HasOctets ∧ snapshot.entries.map (·.id) = [.string "x", .string "x"] ∧
      Snapshot.load ((besideStore twins).openStore ["d"] false).1 [] "s" = .ok snapshot) ∧
    (∀ report, (loadedBesideStore twins).2 ≠ .ok report) ∧
    (besideStore listed).rows? ["d"] = some .empty ∧
    (∃ snapshot, snapshot.HasOctets ∧ snapshot.entries.map (·.id) = [.array [.null]] ∧
      Snapshot.load ((besideStore listed).openStore ["d"] false).1 [] "s" = .ok snapshot) ∧
    ∀ report, (loadedBesideStore listed).2 ≠ .ok report := by
  have htwins : Snapshot.HasOctets ⟨[entry (.string "x"), entry (.string "x")], []⟩ := by
    apply hasOctets_of_entries
    simp only [List.forall_mem_cons, entry, Json.string.injEq, forall_eq']
    exact ⟨⟨by decide, by decide⟩, ⟨by decide, by decide⟩, List.forall_mem_nil _⟩
  have hlisted : Snapshot.HasOctets ⟨[entry (.array [.null])], []⟩ := by
    apply hasOctets_of_entries
    simp only [List.forall_mem_cons, entry, reduceCtorEq]
    exact ⟨⟨fun _ => False.elim, by decide⟩, List.forall_mem_nil _⟩
  refine ⟨rfl, ⟨_, htwins, rfl, twins_loads.1⟩, fun report hreport => ?_, rfl,
    ⟨_, hlisted, rfl, listed_loads.1⟩, fun report hreport => ?_⟩
  · have hkeys := hasDistinctKeys_of_loaded htwins twins_loads.1 hreport
    exact absurd hkeys.distinct (by decide)
  · have hkeys := hasDistinctKeys_of_loaded hlisted listed_loads.1 hreport
    exact absurd (Database.isSimple_of_columnId (hkeys.kept _ List.mem_cons_self)) (by decide)

end ContentQuery

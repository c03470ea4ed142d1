import ContentQuery.Database.File
import ContentQuery.Proofs.Confidentiality
import ContentQuery.Proofs.KeptRows
import ContentQuery.Proofs.SourceSearch
import ContentQuery.Proofs.UsualEngine

/-!
# ContentQuery.Proofs.LoadedStore

The store after a snapshot has been loaded. Nothing that is read from it tells it from the documents
and share records of the snapshot in memory, except that texts without octets cannot be looked for
in its rows.
-/

namespace ContentQuery

/-! ## Stores that cannot be told apart -/

/-- Whether a user sees a document depends on whom its share record lists, not on how. -/
theorem Scope.admits_congr {store store' : Store} {user : Text} {d : Document}
    (h : user ∈ (store.sharedWith? d.id).getD [] ↔ user ∈ (store'.sharedWith? d.id).getD [])
    (scope : Scope) : scope.admits store user d = scope.admits store' user d := by
  have hlisted : ((store.sharedWith? d.id).getD []).contains user =
      ((store'.sharedWith? d.id).getD []).contains user := by
    rw [Bool.eq_iff_iff, List.contains_iff_mem, List.contains_iff_mem, h]
  simp only [admits, hlisted]

/-- Searches give the same on stores of the same documents of which users see the same. -/
theorem search_congr [Limits] {store store' : Store} (hstore : Search.IsCoherent store)
    (hstore' : Search.IsCoherent store') (hdocuments : store.documents = store'.documents)
    (hadmits : ∀ (scope : Scope) user d, scope.admits store user d = scope.admits store' user d)
    (request : SearchRequest) : search store request = search store' request := by
  unfold search
  cases Search.plan request with
  | error e => rfl
  | ok p =>
      have hseen : Search.seen store request.user p.scope =
          Search.seen store' request.user p.scope := by
        rw [Search.seen, Search.seen, hdocuments]
        exact List.filter_congr fun d _ => hadmits p.scope request.user d
      exact congrArg Except.ok (Search.run_eq_of_seen_eq hstore hstore' hseen)

/-! ## Documents in memory -/

namespace MemoryStore

variable {documents : List Document} {shares : List (Text × List Text)}

/-- Documents of distinct ids are all kept. -/
theorem documents_ofLists_eq_self (h : (documents.map (·.id)).Nodup) :
    (ofLists documents shares).documents = documents := by
  have hnames : ((documents.map fun d => (d.id, d)).map (·.1)).Nodup := by
    rwa [List.map_map]
  rw [MemoryStore.documents, ofLists, distinctFields_eq_self hnames, List.map_map]
  exact List.map_id _

/-- Share records of distinct documents are all kept. -/
theorem sharedWith?_toStore_ofLists (h : (shares.map (·.1)).Nodup) (id : Text) :
    (ofLists documents shares).toStore.sharedWith? id = fieldOf? shares id := by
  rw [toStore, ofLists, distinctFields_eq_self h]

end MemoryStore

/-! ## Rows -/

/-- Whether the share record of a document is asked for to tell whether a user sees it. -/
def Scope.asksRecord (scope : Scope) (user : Text) (d : Document) : Bool :=
  match scope with
  | owned => false
  | shared => true
  | all => d.owner ≠ user

namespace Database

variable {db : Database} {documents : List Document} {user : Text} {scope : Scope}

/-- What rows that have been read as some documents are as a store. -/
def storeOf (db : Database) (documents : List Document) : Store where
  documents
  ownedBy owner := documents.filter fun d => d.owner = owner
  sharedWith? := db.profilesOf?

theorem isCoherent_storeOf (db : Database) (documents : List Document) :
    Search.IsCoherent (db.storeOf documents) := fun _ => rfl

/-- Rows tell whether a user sees a document, unless its id has to be looked for and cannot. -/
theorem admits_toSource [Limits] (db : Database) (documents : List Document) (scope : Scope)
    (user : Text) (d : Document) : db.toSource.admits scope user d =
      if scope.asksRecord user d then
        lookFor d.id (.ok (scope.admits (db.storeOf documents) user d))
      else .ok (scope.admits (db.storeOf documents) user d) := by
  have hmapped (f : Option (List Text) → Bool) :
      (db.sharedWith? d.id).map f = lookFor d.id (.ok (f (db.profilesOf? d.id))) := by
    rw [sharedWith?, lookFor, lookFor]
    split <;> rfl
  have hrecord : ((db.toSource.sharedWith? d.id).map fun record =>
      !decide (d.owner = user) && (record.getD []).contains user) =
        lookFor d.id (.ok (Scope.shared.admits (db.storeOf documents) user d)) := by
    rw [Scope.admits, decide_not]
    exact hmapped _
  cases scope with
  | owned => rfl
  | shared => exact hrecord
  | all =>
      unfold Source.admits Scope.asksRecord
      by_cases howned : d.owner = user
      · simp [howned, Scope.admits]
      · have hsame : Scope.all.admits (db.storeOf documents) user d =
            Scope.shared.admits (db.storeOf documents) user d := by
          simp [Scope.admits, howned]
        simpa [howned, hsame] using hrecord

/-- Where all rows can be read and their ids can be looked for, a search finds what the rows are as
a store, unless it is for the documents of an owner who cannot be looked for. -/
theorem reads_storeOf [Limits] (hall : db.allDocuments = .ok documents)
    (hids : ∀ d ∈ documents, d.id.IsWellFormed) (huser : user.IsWellFormed ∨ scope ≠ .owned) :
    db.toSource.Reads (db.storeOf documents) user scope where
  candidates := by
    cases scope with
    | owned =>
        have howner := documentsOf_eq hall user
        rw [lookFor_of_isWellFormed (huser.resolve_right fun hne => hne rfl)] at howner
        exact howner
    | shared => exact hall
    | all => exact hall
  admits := by
    intro d hd
    have hlisted : d ∈ documents := by
      cases scope with
      | owned => exact List.mem_of_mem_filter hd
      | shared => exact hd
      | all => exact hd
    rw [admits_toSource db documents, lookFor_of_isWellFormed (hids d hlisted), ite_self]

/-- A search for the documents of an owner who cannot be looked for fails at once. -/
theorem run_toSource_of_not_isWellFormed [Limits] (db : Database) {plan : Search.Plan}
    (hscope : plan.scope = .owned) (huser : ¬ user.IsWellFormed) :
    db.toSource.run user plan = ⟨[], .error (.unread .surrogate)⟩ := by
  have hfails : db.toSource.candidates user plan.scope = .error .surrogate := by
    rw [hscope]
    exact lookFor_of_not_isWellFormed huser _
  rw [Source.run, hfails]

/-- A search in rows is the search in what they are as a store. -/
theorem search_toSource [Limits] (hall : db.allDocuments = .ok documents)
    (hids : ∀ d ∈ documents, d.id.IsWellFormed) (request : SearchRequest)
    (huser : request.user.IsWellFormed ∨ Scope.parse request.scope ≠ .ok .owned) :
    db.toSource.search request = (search (db.storeOf documents) request).map .ofSearch := by
  unfold Source.search search
  cases hplan : Search.plan request with
  | error e => rfl
  | ok p =>
      have hscope := ((Search.plan_eq_ok_iff request p).mp hplan).2.1
      have hreads : db.toSource.Reads (db.storeOf documents) request.user p.scope :=
        reads_storeOf hall hids (huser.imp_right fun hne howned => hne (howned ▸ hscope))
      exact congrArg Except.ok hreads.run_eq

/-- A search for the documents of an owner who cannot be looked for fails once it has been read. -/
theorem search_toSource_of_not_isWellFormed [Limits] (db : Database) (request : SearchRequest)
    (hscope : Scope.parse request.scope = .ok .owned) (huser : ¬ request.user.IsWellFormed) :
    db.toSource.search request =
      (Search.plan request).map fun _ => ⟨[], .error (.unread .surrogate)⟩ := by
  unfold Source.search
  cases hplan : Search.plan request with
  | error e => rfl
  | ok p =>
      have hparsed := ((Search.plan_eq_ok_iff request p).mp hplan).2.1
      have howned : p.scope = .owned := Except.ok.inj (hparsed.symm.trans hscope)
      exact congrArg Except.ok (run_toSource_of_not_isWellFormed db howned huser)

/-! ## Rows of a snapshot -/

variable {snapshot : Snapshot}

/-- The documents that are kept of a snapshot that can be stored are its documents. -/
theorem keptDocuments_perm [Engine] (h : snapshot.IsStorable) :
    snapshot.keptDocuments.Perm (snapshot.entries.map (·.document)) := by
  have hsame : snapshot.entries.map (·.keptDocument) = snapshot.entries.map (·.document) := by
    apply List.map_congr_left
    intro entry hentry
    rw [SnapshotEntry.keptDocument, (hasDistinctKeys_of_isStorable h).2 entry hentry,
      SnapshotEntry.document]
  rw [← hsame]
  exact List.mergeSort_perm _ _

/-- Their ids can be looked for. -/
theorem isWellFormed_id_of_mem_keptDocuments [Engine] (h : snapshot.IsStorable) {d : Document}
    (hd : d ∈ snapshot.keptDocuments) : d.id.IsWellFormed := by
  obtain ⟨entry, hentry, rfl⟩ := List.mem_map.mp ((keptDocuments_perm h).mem_iff.mp hd)
  exact (h.id_eq hentry).2

/-- The share records that are kept of it list whom those of its documents list. -/
theorem mem_profilesOf?_iff [Limits] [Engine] (haccepted : snapshot.IsAccepted)
    (h : snapshot.IsStorable) (id user : Text) :
    user ∈ ((keptRows snapshot).profilesOf? id).getD [] ↔
      user ∈ (fieldOf? snapshot.knownShares id).getD [] := by
  rw [profilesOf?_keptRows haccepted, Snapshot.keptProfiles?, mem_recordOf?_iff, heldShares_eq h]

end Database

/-! ## Loading -/

/-- A load gives rows exactly if the snapshot can be read and its rows can be written. -/
theorem loadSnapshot_eq_ok_iff [Limits] [Engine] {tree : FileTree} {working : Location}
    {path : Text} {db next : Database} : (loadSnapshot db tree working path).result = .ok next ↔
      ∃ snapshot, Snapshot.load tree working path = .ok snapshot ∧
        (db.replaceBy snapshot).result = .ok next := by
  unfold loadSnapshot
  cases Snapshot.load tree working path with
  | error e => simp
  | ok snapshot =>
      cases hresult : (db.replaceBy snapshot).result with
      | error e => simp [hresult, Except.mapError]
      | ok next => simp [hresult, Except.mapError]

theorem result_loadSnapshot [Limits] [Engine] {tree : FileTree} {working : Location} {path : Text}
    {snapshot : Snapshot} (hread : Snapshot.load tree working path = .ok snapshot)
    (hstorable : snapshot.IsStorable) (db : Database) :
    (loadSnapshot db tree working path).result = .ok (Database.keptRows snapshot) :=
  loadSnapshot_eq_ok_iff.mpr ⟨snapshot, hread,
    Database.replaceBy_of_isStorable (Snapshot.isAccepted_of_load hread) hstorable db⟩

open Database in
/-- Whatever rows a store had, once a snapshot has been loaded it is the same, by every way of
reading it, as the documents of the snapshot in memory, in the order of their ids, with the share
records of these documents. Only a text without octets cannot be looked for in its rows: neither the
owner of documents nor the id of a document whose share record is asked for can be such a text. -/
theorem loaded_store_refines_memory [Limits] [Engine] (previous : Database) (tree : FileTree)
    (working : Location) (path : Text) {snapshot : Snapshot}
    (hread : Snapshot.load tree working path = .ok snapshot) (hstorable : snapshot.IsStorable) :
    ∃ db documents,
      (loadSnapshot previous tree working path).result = .ok db ∧
      documents.Perm (snapshot.entries.map (·.document)) ∧
      documents.Pairwise (fun d e => d.id < e.id) ∧
      let memory := MemoryStore.ofLists documents snapshot.knownShares
      memory.documents = documents ∧
      db.allDocuments = .ok memory.documents ∧
      (∀ owner, db.documentsOf owner = lookFor owner (.ok (memory.toStore.ownedBy owner))) ∧
      (∀ (scope : Scope) user d, db.toSource.admits scope user d =
        if scope.asksRecord user d then lookFor d.id (.ok (scope.admits memory.toStore user d))
        else .ok (scope.admits memory.toStore user d)) ∧
      (∀ request, request.user.IsWellFormed ∨ Scope.parse request.scope ≠ .ok .owned →
        db.toSource.search request = (search memory.toStore request).map .ofSearch) ∧
      ∀ request, Scope.parse request.scope = .ok .owned → ¬ request.user.IsWellFormed →
        db.toSource.search request =
          (Search.plan request).map fun _ => ⟨[], .error (.unread .surrogate)⟩ := by
  have haccepted := Snapshot.isAccepted_of_load hread
  have hkeeps := keeps_of_replaceBy haccepted (replaceBy_of_isStorable haccepted hstorable previous)
  let db := keptRows snapshot
  let documents := snapshot.keptDocuments
  let memory := MemoryStore.ofLists documents snapshot.knownShares
  have hperm := keptDocuments_perm hstorable
  have hmemory : memory.documents = documents :=
    MemoryStore.documents_ofLists_eq_self
      (List.pairwise_map.mpr (hkeeps.ordered.imp fun hlt => ne_of_lt hlt))
  have howned (owner : Text) : memory.toStore.ownedBy owner =
      documents.filter fun d => d.owner = owner := by
    rw [MemoryStore.toStore, hmemory]
  have hshares : (snapshot.knownShares.map (·.1)).Nodup :=
    haccepted.shares.sublist (List.filter_sublist.map _)
  have hadmits (scope : Scope) (user : Text) (d : Document) :
      scope.admits (db.storeOf documents) user d = scope.admits memory.toStore user d := by
    apply Scope.admits_congr
    rw [MemoryStore.sharedWith?_toStore_ofLists hshares]
    exact mem_profilesOf?_iff haccepted hstorable d.id user
  have hids : ∀ d ∈ documents, d.id.IsWellFormed :=
    fun d => isWellFormed_id_of_mem_keptDocuments hstorable
  refine ⟨db, documents, result_loadSnapshot hread hstorable previous, hperm, hkeeps.ordered,
    hmemory, ?_, fun owner => ?_, fun scope user d => ?_, fun request huser => ?_,
    search_toSource_of_not_isWellFormed db⟩
  · rw [hmemory]
    exact hkeeps.documents
  · rw [howned]
    exact hkeeps.owned owner
  · rw [← hadmits]
    exact admits_toSource db documents scope user d
  · have hsame := search_congr (isCoherent_storeOf db documents)
      (Search.isCoherent_toStore memory) hmemory.symm hadmits request
    rw [← hsame]
    exact search_toSource hkeeps.documents hids request huser

namespace Sample

/-- The value of a document in a snapshot, from the first day that timestamps cover. -/
def entryValue (owner : Text) (content : Json) : Json :=
  .object [("owner_id", .string owner), ("content", content),
    ("creation_date", .string "0001-01-01")]

/-- The value of a share record with one profile, listed twice. -/
def shareValue (profile : Text) : Json :=
  .object [("shared_with", .array [.string profile, .string profile])]

/-- A snapshot of two documents, of which one has a share record. A document of a third record is
missing. -/
def snapshotValue : Json := .object [
  ("documents", .object [("b", entryValue "alice" (.object [("n", .float .nan)])),
    ("a", entryValue "bob" .null)]),
  ("share_records", .object [("a", shareValue "alice"), ("c", shareValue "alice")])]

/-- A directory with the file of this snapshot. -/
def tree : FileTree :=
  ⟨[(["s"], .file ((Utf8.encode (snapshotValue.write .stored)).getD []))]⟩

/-- What the file is read as. -/
def snapshot : Snapshot where
  entries := [⟨.string "b", "alice", .object [("n", .float .nan)], start, start⟩,
    ⟨.string "a", "bob", .null, start, start⟩]
  shares := [("a", ["alice"]), ("c", ["alice"])]

theorem load_of_read {tree : FileTree} {working : Location} {path : Text}
    (hpath : FilePath.check path = .ok ()) (hoctets : tree.read working path =
      .ok ((Utf8.encode (snapshotValue.write .stored)).getD [])) :
    Snapshot.load tree working path = .ok snapshot := by
  have hreadable : snapshotValue.IsReadable .file := by
    simp only [snapshotValue, entryValue, shareValue, Json.IsReadable, Json.FieldsReadable,
      Json.ItemsReadable]
    and_intros <;> decide
  have htext : Utf8.encode (snapshotValue.write .stored) =
      some ((Utf8.encode (snapshotValue.write .stored)).getD []) := by decide +kernel
  refine Snapshot.load_eq_ok_iff.mpr ⟨hpath, _, _, hoctets, htext, ?_⟩
  rw [Snapshot.ofText_write .stored hreadable (by decide)]
  rfl

theorem load_tree : Snapshot.load tree [] "s" = .ok snapshot := load_of_read rfl rfl

theorem isStorable_snapshot : snapshot.IsStorable where
  ids := by
    simp only [snapshot, List.forall_mem_cons]
    exact ⟨⟨"b", rfl, by decide⟩, ⟨"a", rfl, by decide⟩, List.forall_mem_nil _⟩
  distinct := by
    have hne : Json.string "b" ≠ Json.string "a" := fun heq =>
      absurd (Json.string.inj heq) (by decide)
    exact List.nodup_cons.mpr ⟨fun hmem => hne (List.mem_singleton.mp hmem), List.nodup_singleton _⟩
  owners := by
    simp only [snapshot, List.forall_mem_cons]
    exact ⟨by decide, by decide, List.forall_mem_nil _⟩
  profiles := by
    simp only [snapshot, List.forall_mem_cons]
    exact ⟨⟨by decide, List.forall_mem_nil _⟩, ⟨by decide, List.forall_mem_nil _⟩,
      List.forall_mem_nil _⟩

/-- The documents of this snapshot in memory, with the share record of the first one. -/
def memory : MemoryStore :=
  .ofLists [document "a" "bob" (.json .null),
    document "b" "alice" (.json (.object [("n", .float .nan)]))] [("a", ["alice"])]

/-- A text that has no octets. -/
def half : Text := [⟨0xD800, by decide⟩]

theorem not_isWellFormed_half : ¬ half.IsWellFormed := by decide

end Sample

/-- A store with a row of its own, once the snapshot of two documents has been loaded: it holds the
two in the order of their ids and nothing of what it held before. -/
theorem loaded_store_refines_memory_of_pair :
    let previous : Database := ⟨[⟨"b", "carol", "1", Sample.start, Sample.start⟩], [⟨"b", "bob"⟩]⟩
    ∃ db, (loadSnapshot previous Sample.tree [] "s").result = .ok db ∧
      db.allDocuments = .ok Sample.memory.documents ∧
      ∀ request, request.user.IsWellFormed →
        db.toSource.search request = (search Sample.memory.toStore request).map .ofSearch := by
  intro previous
  let documents := Sample.memory.documents
  obtain ⟨db, loaded, hresult, hperm, hordered, hmemory, hall, -, -, hsearch, -⟩ :=
    loaded_store_refines_memory previous Sample.tree [] "s" Sample.load_tree
      Sample.isStorable_snapshot
  have hids : documents.Pairwise fun d e => d.id < e.id := List.pairwise_pair.mpr (by decide)
  have hloaded : loaded = documents := by
    apply List.Perm.eq_of_pairwise _ hordered hids (hperm.trans (List.Perm.swap _ _ _))
    exact fun d e _ _ hlt hgt => absurd (hlt.trans hgt) (lt_irrefl _)
  subst hloaded
  exact ⟨db, hresult, hmemory ▸ hall, fun request huser => hsearch request (.inl huser)⟩

/-- In memory a text without octets is the owner of no document, and a search for its own documents
finds none. In the rows that have been loaded it cannot be looked for. -/
theorem loaded_store_unlike_memory :
    let request := Sample.request Sample.half "owned" "n equals x"
    Snapshot.load Sample.tree [] "s" = .ok Sample.snapshot ∧ Sample.snapshot.IsStorable ∧
      ∃ db, (loadSnapshot .empty Sample.tree [] "s").result = .ok db ∧
        Sample.memory.toStore.ownedBy Sample.half = [] ∧
        db.documentsOf Sample.half = .error .surrogate ∧
        search Sample.memory.toStore request = .ok ⟨[], .ok ⟨[], 0, .ofRequest 1 20⟩⟩ ∧
        db.toSource.search request = .ok ⟨[], .error (.unread .surrogate)⟩ := by
  intro request
  have hloaded := result_loadSnapshot Sample.load_tree Sample.isStorable_snapshot .empty
  refine ⟨Sample.load_tree, Sample.isStorable_snapshot, _, hloaded, rfl,
    Database.lookFor_of_not_isWellFormed Sample.not_isWellFormed_half _, ?_, ?_⟩
  · have hplan : Search.plan request = .ok ⟨some (.chain Sample.named []), .owned,
        ⟨.created, .ascending⟩, .ofRequest 1 20⟩ := rfl
    have hfound : (Sorting.mk .created .ascending).sort [] = [] := List.mergeSort_nil
    simp only [search, hplan, Except.map, Search.run]
    refine congrArg Except.ok (congrArg (Search.Report.mk []) (congrArg Except.ok ?_))
    exact congrArg (fun sorted => SearchResult.mk (Page.paginate sorted 1 20) sorted.length
      (.ofRequest 1 20)) hfound
  rw [Database.search_toSource_of_not_isWellFormed _ request rfl Sample.not_isWellFormed_half]
  rfl

end ContentQuery

import ContentQuery.Export
import ContentQuery.Proofs.EngineLaws
import ContentQuery.Proofs.LoadedStore
import ContentQuery.Proofs.TimestampText

/-!
# ContentQuery.Proofs.ExportedDocument

Documents exported as JSON and imported again. Whatever snapshot has been loaded, the documents of
the store come back as they are, one by one and from the page of a search: their texts are those of
a column, their points in time are written in the form in which they are read, and their content
leaves room for what an export puts around it.
-/

namespace ContentQuery

/-! ## One document -/

namespace Snapshot

theorem readTimestamp_text (key : Text) (t : Timestamp) :
    readTimestamp key (.string t.text) = .ok t := by
  rw [readTimestamp, Timestamp.ofJson, t.parse_text]
  rfl

variable {fields : List (Text × Json)}

/-- Of the texts only the empty one is blank. -/
theorem unlessBlank?_string_eq_some_iff {value : Option Json} {s : Text} :
    unlessBlank? value = some (.string s) ↔ value = some (.string s) ∧ s ≠ [] := by
  have hfull : (!(Json.string s).isBlank) = true ↔ s ≠ [] := by
    rw [Json.isBlank, Bool.not_eq_true', List.isEmpty_eq_false_iff]
  rw [unlessBlank?, Option.filter_eq_some_iff, hfull]

/-- The owner of a document is a text that is not empty. -/
theorem owner?_eq_some_iff {owner : Text} :
    owner? fields = some owner ↔
      fieldOf? fields "owner_id" = some (.string owner) ∧ owner ≠ [] := by
  rw [← unlessBlank?_string_eq_some_iff, owner?]
  constructor
  · intro h
    split at h
    · next hfound => rw [hfound, Option.some.inj h]
    · contradiction
  · intro h
    rw [h]

/-- A document that gives the key as its id has it, also if that is blank and thus does not
count. -/
theorem idOf_of_key {key : Text} (h : fieldOf? fields "id" = some (.string key)) :
    idOf key fields = .string key := by
  rw [idOf, h, unlessBlank?, Option.filter_some]
  split <;> rfl

theorem modification_of_text {s : Text}
    (h : fieldOf? fields "last_modified_date" = some (.string s)) (hs : s ≠ [])
    (date : Json) : modification fields date = .string s := by
  rw [modification, unlessBlank?_string_eq_some_iff.mpr ⟨h, hs⟩]
  rfl

end Snapshot

namespace Document

/-- The object that is written for a document with this content. -/
def exportedAs (d : Document) (content : Json) : Json :=
  .object [("id", .string d.id), ("owner_id", .string d.owner), ("content", content),
    ("creation_date", .string d.created.text), ("last_modified_date", .string d.modified.text)]

/-- Whether a document is what a value under its id is imported as. -/
def IsImportedFrom (d : Document) (value : Json) : Prop :=
  ∃ content, d.content = .json content ∧
    Snapshot.readEntry d.id value = .ok ⟨.string d.id, d.owner, content, d.created, d.modified⟩

/-- What is required of a document for it to come back from an export, if there is room for so many
arrays and objects around each other in its content. -/
structure IsExportable (d : Document) (room : Nat) : Prop where
  id : d.id.IsWellFormed
  owner : d.owner.IsWellFormed
  owned : d.owner ≠ []
  content : ∃ content, d.content = .json content ∧ content.Fits .file room

variable {d : Document} {room : Nat} {content : Json}

theorem exported_eq (h : d.content = .json content) : d.exported = .ok (d.exportedAs content) := by
  rw [exported, h, Payload.written]
  rfl

/-- A document is read from its own object. -/
theorem isImportedFrom_exportedAs (hcontent : d.content = .json content) (howner : d.owner ≠ []) :
    d.IsImportedFrom (d.exportedAs content) := by
  have hdate : d.modified.text ≠ [] := by
    obtain ⟨digit, rest, htext, -⟩ := d.modified.exists_text_eq_cons
    rw [htext]
    exact List.cons_ne_nil digit rest
  refine ⟨content, hcontent, Snapshot.readEntry_eq_ok_iff.mpr ⟨_, .string d.created.text, rfl, ?_,
    rfl, Snapshot.readTimestamp_text d.id d.created, ?_, (Snapshot.idOf_of_key rfl).symm, rfl⟩⟩
  · exact Snapshot.owner?_eq_some_iff.mpr ⟨rfl, howner⟩
  · rw [Snapshot.modification_of_text rfl hdate]
    exact Snapshot.readTimestamp_text d.id d.modified

/-- The object of a document is nested one deeper than its content. -/
theorem fits_exportedAs (h : d.IsExportable room) (hcontent : content.Fits .file room) :
    (d.exportedAs content).Fits .file (room + 1) := by
  have htext {s : Text} (hs : s.IsWellFormed) : (Json.string s).Fits .file room :=
    ⟨hs.isJoined, Nat.zero_le room⟩
  have htime (t : Timestamp) : (Json.string t.text).Fits .file room :=
    htext fun _ => t.isSurrogate_of_mem_text
  refine Json.fits_object_iff.mpr ⟨?_, ?_⟩
  · have hnames : (["id", "owner_id", "content", "creation_date", "last_modified_date"] :
        List Text).Nodup := by decide
    exact hnames
  · simp only [List.forall_mem_cons]
    have hname := Json.isJoined_ofString
    exact ⟨⟨hname _, htext h.id⟩, ⟨hname _, htext h.owner⟩, ⟨hname _, hcontent⟩,
      ⟨hname _, htime d.created⟩, ⟨hname _, htime d.modified⟩, List.forall_mem_nil _⟩

/-- A document that can be exported is imported from what is written for it. -/
theorem IsExportable.of_exported (h : d.IsExportable room) {value : Json}
    (hvalue : d.exported = .ok value) : value.Fits .file (room + 1) ∧ d.IsImportedFrom value := by
  obtain ⟨content, hcontent, hfits⟩ := h.content
  obtain rfl := Except.ok.inj ((exported_eq hcontent).symm.trans hvalue)
  exact ⟨fits_exportedAs h hfits, isImportedFrom_exportedAs hcontent h.owned⟩

theorem IsExportable.exists_exported (h : d.IsExportable room) :
    ∃ value, d.exported = .ok value := by
  obtain ⟨content, hcontent, -⟩ := h.content
  exact ⟨_, exported_eq hcontent⟩

end Document

/-! ## A page -/

theorem Json.hundred_lt_pow_maxDigits : 100 < 10 ^ maxDigits :=
  lt_of_lt_of_le (by decide : 100 < 10 ^ 3) (Nat.pow_le_pow_right (by decide) (by decide))

namespace SearchResult

variable {result : SearchResult} {room : Nat}

/-- From the object of a page its documents are imported one by one. Around each of them there are
the object of the page and its list of documents. -/
theorem exists_exported (hdocuments : ∀ d ∈ result.documents, d.IsExportable room)
    (htotal : result.total < 10 ^ Json.maxDigits)
    (hpage : result.page.number < 10 ^ Json.maxDigits) :
    ∃ value items, result.exported = .ok value ∧ value.Fits .file (room + 3) ∧
      value.field? "documents" = some (.array items) ∧
      List.Forall₂ Document.IsImportedFrom result.documents items := by
  obtain ⟨items, hitems⟩ : ∃ items, result.documents.mapM Document.exported = .ok items :=
    exists_mapM_eq_ok fun d hd => (hdocuments d hd).exists_exported
  have hplaces := mapM_eq_ok_iff.mp hitems
  refine ⟨_, items, bind_eq_ok_iff.mpr ⟨items, hitems, rfl⟩, ?_, rfl, ?_⟩
  · have hlist : (Json.array items).Fits .file (room + 2) := by
      rw [Json.fits_array_iff]
      intro item hitem
      obtain ⟨d, hd, hvalue⟩ := exists_of_mem_of_mapM hitems hitem
      exact ((hdocuments d hd).of_exported hvalue).1
    have hnumber {n : Nat} (hn : n < 10 ^ Json.maxDigits) : (Json.int n).Fits .file (room + 2) :=
      ⟨hn, Nat.zero_le _⟩
    have hlimit : result.page.limit < 10 ^ Json.maxDigits :=
      lt_of_le_of_lt result.page.limit_le Json.hundred_lt_pow_maxDigits
    refine Json.fits_object_iff.mpr ⟨?_, ?_⟩
    · have hnames : (["documents", "total", "page", "limit"] : List Text).Nodup := by decide
      exact hnames
    · simp only [List.forall_mem_cons]
      have hname := Json.isJoined_ofString
      exact ⟨⟨hname _, hlist⟩, ⟨hname _, hnumber htotal⟩, ⟨hname _, hnumber hpage⟩,
        ⟨hname _, hnumber hlimit⟩, List.forall_mem_nil _⟩
  · have hmade := (List.forall₂_and_left _ _).mpr ⟨hdocuments, hplaces⟩
    exact hmade.imp fun d item h => (h.1.of_exported h.2).2

end SearchResult

namespace Search

variable {store : Store} {request : SearchRequest} {report : Report} {result : SearchResult}

/-- What a search returns are documents of the store. It counts no more than there are, and its page
lies no further on than the one that is asked for. -/
theorem returned_of_search [Limits] (hstore : IsCoherent store)
    (hreport : search store request = .ok report) (hresult : report.result = .ok result) :
    (∀ d ∈ result.documents, d ∈ store.documents) ∧ result.total ≤ store.documents.length ∧
      result.page.number ≤ max 1 request.page.toNat := by
  obtain ⟨p, hplan, rfl⟩ := (search_eq_ok_iff store request report).mp hreport
  obtain ⟨-, -, -, hpage⟩ := (plan_eq_ok_iff request p).mp hplan
  refine ⟨fun d hd => ?_, ?_, ?_⟩
  · exact List.mem_of_mem_filter (mem_seen_of_returned hstore hresult hd).1
  · rw [(run_eq_of_ok hstore hresult).2]
    exact (List.length_filter_le _ _).trans (List.length_filter_le _ _)
  · rw [(run_eq_of_ok hstore hresult).2, hpage]
    simp only [Page.ofRequest, Page.effectiveNumber]
    split <;> omega

end Search

/-! ## After a load -/

namespace Snapshot

/-- A document that has been read leaves room for an export of it in a page, and its owner is not
empty. -/
theorem content_and_owner_of_load [Limits] {tree : FileTree} {working : Location} {path : Text}
    {snapshot : Snapshot} (h : load tree working path = .ok snapshot) {entry : SnapshotEntry}
    (hentry : entry ∈ snapshot.entries) :
    entry.content.Fits .file (Limits.snapshot - 3) ∧ entry.owner ≠ [] := by
  obtain ⟨key, value, hread⟩ := exists_readEntry_of_load h hentry
  obtain ⟨fields, date, -, howner, -⟩ := readEntry_eq_ok_iff.mp hread
  exact ⟨(isAccepted_of_load h).contents entry hentry, (owner?_eq_some_iff.mp howner).2⟩

end Snapshot

namespace Database

variable {previous db : Database} {documents : List Document} {tree : FileTree} {working : Location}
  {path : Text}

/-- After a load all documents of the store can be read and exported. -/
theorem exists_allDocuments_of_load [Limits] [Engine] [Engine.Lawful]
    (hload : (loadSnapshot previous tree working path).result = .ok db) :
    ∃ documents, db.allDocuments = .ok documents ∧
      ∀ d ∈ documents, d.IsExportable (Limits.snapshot - 3) := by
  obtain ⟨snapshot, hread, hresult⟩ := loadSnapshot_eq_ok_iff.mp hload
  have haccepted := Snapshot.isAccepted_of_load hread
  obtain ⟨hkeys, howners, -, rfl⟩ := (replaceBy_eq_ok_iff haccepted previous).mp hresult
  refine ⟨snapshot.keptDocuments, allDocuments_keptRows haccepted, fun d hd => ?_⟩
  obtain ⟨entry, hentry, rfl⟩ := List.mem_map.mp (List.mem_mergeSort.mp hd)
  obtain ⟨hcontent, hnonempty⟩ := Snapshot.content_and_owner_of_load hread hentry
  exact ⟨isWellFormed_of_columnId (hkeys.kept entry hentry), howners entry hentry, hnonempty,
    entry.content, rfl, hcontent⟩

/-- What a search in rows returns, the search in what they are as a store returns, too. -/
theorem exists_report_of_search [Limits] (hall : db.allDocuments = .ok documents)
    (hids : ∀ d ∈ documents, d.id.IsWellFormed) {request : SearchRequest}
    {report : Source.Report FetchError} {result : SearchResult}
    (hreport : db.toSource.search request = .ok report) (hresult : report.result = .ok result) :
    ∃ found, search (db.storeOf documents) request = .ok found ∧ found.result = .ok result := by
  by_cases huser : request.user.IsWellFormed ∨ Scope.parse request.scope ≠ .ok .owned
  · rw [search_toSource hall hids request huser] at hreport
    obtain ⟨found, hfound, rfl⟩ := map_eq_ok_iff.mp hreport
    exact ⟨found, hfound, mapError_eq_ok_iff.mp hresult⟩
  · obtain ⟨hplain, hscope⟩ := not_or.mp huser
    rw [search_toSource_of_not_isWellFormed db request (not_not.mp hscope) hplain] at hreport
    obtain ⟨plan, -, rfl⟩ := map_eq_ok_iff.mp hreport
    contradiction

end Database

open Database in
/-- Whatever rows a store had and whatever snapshot has been loaded into it, all of its documents
and those of each owner who can be looked for can be read, and each of them comes back from its
export: what is written for it, in whatever layout, is read as the value that was written, and this
value under the id of the document is imported as the same id, owner, content and points in time.
So are the documents on the page of a search from the object of the whole page. -/
theorem exported_documents_are_imported [Limits] [Engine] [Engine.Lawful] {previous db : Database}
    {tree : FileTree} {working : Location} {path : Text}
    (hload : (loadSnapshot previous tree working path).result = .ok db) :
    ∃ documents, db.allDocuments = .ok documents ∧
      (∀ owner, db.documentsOf owner =
        lookFor owner (.ok (documents.filter fun d => d.owner = owner))) ∧
      (∀ d, (d ∈ documents ∨ ∃ owner owned, db.documentsOf owner = .ok owned ∧ d ∈ owned) →
        ∃ value, d.exported = .ok value ∧
          (∀ style, Json.read .file Limits.snapshot (value.write style) = .ok value) ∧
          d.IsImportedFrom value) ∧
      ∀ request report result, db.toSource.search request = .ok report →
        report.result = .ok result → documents.length < 10 ^ Json.maxDigits →
        request.page.toNat < 10 ^ Json.maxDigits →
        ∃ value items, result.exported = .ok value ∧
          (∀ style, Json.read .file Limits.snapshot (value.write style) = .ok value) ∧
          value.field? "documents" = some (.array items) ∧
          List.Forall₂ Document.IsImportedFrom result.documents items := by
  obtain ⟨documents, hall, hexportable⟩ := exists_allDocuments_of_load hload
  have hroom : Limits.snapshot - 3 + 3 = Limits.snapshot :=
    Nat.sub_add_cancel Limits.three_le_snapshot
  refine ⟨documents, hall, documentsOf_eq hall, ?_, ?_⟩
  · intro d hd
    have hlisted : d ∈ documents := by
      rcases hd with hd | ⟨owner, owned, howned, hd⟩
      · exact hd
      · rw [documentsOf_eq hall, lookFor] at howned
        split at howned
        · rw [← Except.ok.inj howned] at hd
          exact List.mem_of_mem_filter hd
        · contradiction
    obtain ⟨value, hvalue⟩ := (hexportable d hlisted).exists_exported
    obtain ⟨hfits, himported⟩ := (hexportable d hlisted).of_exported hvalue
    have hdepth := (hfits.mono (by omega : Limits.snapshot - 3 + 1 ≤ Limits.snapshot)).2
    exact ⟨value, hvalue, fun style => Json.read_write style hfits.1 hdepth, himported⟩
  · intro request report result hreport hresult hcount hpage
    obtain ⟨found, hfound, hreturned⟩ :=
      exists_report_of_search hall (fun d hd => (hexportable d hd).id) hreport hresult
    obtain ⟨hlisted, htotal, hnumber⟩ :=
      Search.returned_of_search (isCoherent_storeOf db documents) hfound hreturned
    have hdocuments : ∀ d ∈ result.documents, d.IsExportable (Limits.snapshot - 3) :=
      fun d hd => hexportable d (hlisted d hd)
    have hfew : max 1 request.page.toNat < 10 ^ Json.maxDigits :=
      max_lt (lt_trans (by decide) Json.hundred_lt_pow_maxDigits) hpage
    obtain ⟨value, items, hvalue, hfits, hitems, himported⟩ :=
      SearchResult.exists_exported hdocuments (htotal.trans_lt hcount) (hnumber.trans_lt hfew)
    rw [hroom] at hfits
    exact ⟨value, items, hvalue, fun style => Json.read_write style hfits.1 hfits.2, hitems,
      himported⟩

namespace Sample

/-- A search for all documents, without a condition. -/
def everything : SearchRequest := { request "alice" "all" "" with parts := [] }

/-- Such a search returns, whatever the documents are. -/
theorem exists_result_everything [Limits] {store : Store} (hstore : Search.IsCoherent store) :
    ∃ report result, search store everything = .ok report ∧ report.result = .ok result := by
  have hplan : Search.plan everything =
      .ok ⟨none, .all, ⟨.created, .ascending⟩, .ofRequest 1 20⟩ := rfl
  obtain ⟨result, hresult⟩ := (Search.run_returns_iff hstore "alice"
    ⟨none, .all, ⟨.created, .ascending⟩, .ofRequest 1 20⟩).mpr fun d _ _ => rfl
  exact ⟨_, result, (Search.search_eq_ok_iff _ _ _).mpr ⟨_, hplan, rfl⟩, hresult⟩

end Sample

/-- A store that was empty, once the snapshot of two documents has been loaded: the one that holds a
NaN comes back, and so does the page of all documents. -/
theorem exported_documents_are_imported_of_pair :
    let d := Sample.document "b" "alice" (.json (.object [("n", .float .nan)]))
    ∃ db documents, (loadSnapshot .empty Sample.tree [] "s").result = .ok db ∧
      db.allDocuments = .ok documents ∧ d ∈ documents ∧
      (∃ value, d.exported = .ok value ∧
        (∀ style, Json.read .file Limits.snapshot (value.write style) = .ok value) ∧
        d.IsImportedFrom value) ∧
      ∃ report result value, db.toSource.search Sample.everything = .ok report ∧
        report.result = .ok result ∧ result.exported = .ok value ∧
        ∀ style, Json.read .file Limits.snapshot (value.write style) = .ok value := by
  intro d
  have hload := result_loadSnapshot Sample.load_tree Sample.isStorable_snapshot .empty
  have hkept := Database.allDocuments_keptRows (Snapshot.isAccepted_of_load Sample.load_tree)
  obtain ⟨documents, hall, -, himported, hpages⟩ := exported_documents_are_imported hload
  obtain rfl := Except.ok.inj (hkept.symm.trans hall)
  have hperm := Database.keptDocuments_perm Sample.isStorable_snapshot
  have hlisted : d ∈ Sample.snapshot.keptDocuments :=
    hperm.mem_iff.mpr (List.mem_map.mpr ⟨_, List.mem_cons_self, rfl⟩)
  have hids : ∀ d ∈ Sample.snapshot.keptDocuments, d.id.IsWellFormed :=
    fun d => Database.isWellFormed_id_of_mem_keptDocuments Sample.isStorable_snapshot
  have hcount : Sample.snapshot.keptDocuments.length < 10 ^ Json.maxDigits := by
    rw [hperm.length_eq, List.length_map]
    exact (by decide : Sample.snapshot.entries.length < 100).trans Json.hundred_lt_pow_maxDigits
  obtain ⟨found, result, hfound, hresult⟩ := Sample.exists_result_everything
    (Database.isCoherent_storeOf (Database.keptRows Sample.snapshot) Sample.snapshot.keptDocuments)
  have hreport := Database.search_toSource hkept hids Sample.everything (.inr nofun)
  rw [hfound] at hreport
  have hreturned : (Source.Report.ofSearch (ε := Database.FetchError) found).result =
      .ok result := mapError_eq_ok_iff.mpr hresult
  obtain ⟨value, items, hvalue, hwritten, -⟩ := hpages _ _ result hreport hreturned hcount
    (lt_trans (by decide) Json.hundred_lt_pow_maxDigits)
  exact ⟨_, _, hload, hkept, hlisted, himported d (.inl hlisted), _, result, value, hreport,
    hreturned, hvalue, hwritten⟩

end ContentQuery

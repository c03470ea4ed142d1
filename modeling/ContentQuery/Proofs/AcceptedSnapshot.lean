import ContentQuery.Proofs.JsonReading
import ContentQuery.Proofs.Steps
import ContentQuery.Proofs.Utf8Form
import ContentQuery.Snapshot.Reader

/-!
# ContentQuery.Proofs.AcceptedSnapshot

What a snapshot that has been read is like: its contents can be written and read again, and neither
the documents of its share records nor the profiles of one record repeat.
-/

namespace ContentQuery

/-! ## Octets -/

namespace Utf8

/-- A text that octets are the form of has no surrogates. -/
theorem isWellFormed_of_decode {bytes : List UInt8} {s : Text} (h : decode bytes = some s) :
    s.IsWellFormed := (encode_eq_some_iff.mp (decode_eq_some_iff.mp h)).1

end Utf8

namespace Snapshot

variable {room : Nat}

/-! ## Documents -/

/-- The id of the document that stands under a key: the one that it gives itself unless it is blank,
and otherwise the key. -/
def idOf (key : Text) (fields : List (Text × Json)) : Json :=
  (unlessBlank? (fieldOf? fields "id")).getD (.string key)

/-- The date of the last modification of a document that was created at a date. -/
def modification (fields : List (Text × Json)) (date : Json) : Json :=
  (unlessBlank? (fieldOf? fields "last_modified_date")).getD date

/-- What stands under a key is read as a document exactly if it is an object with an owner and with
dates that can be read. -/
theorem readEntry_eq_ok_iff {key : Text} {value : Json} {entry : SnapshotEntry} :
    readEntry key value = .ok entry ↔ ∃ fields date, value = .object fields ∧
      owner? fields = some entry.owner ∧ fieldOf? fields "creation_date" = some date ∧
      readTimestamp key date = .ok entry.created ∧
      readTimestamp key (modification fields date) = .ok entry.modified ∧
      entry.id = idOf key fields ∧ entry.content = (fieldOf? fields "content").getD .null := by
  constructor
  · intro h
    cases value with
    | object fields =>
        unfold readEntry at h
        simp only at h
        split at h
        · next owner howner =>
            split at h
            · next date hdate =>
                simp only [bind_eq_ok_iff] at h
                obtain ⟨created, hcreated, modified, hmodified, h⟩ := h
                rw [← Except.ok.inj h]
                exact ⟨fields, date, rfl, howner, hdate, hcreated, hmodified, rfl, rfl⟩
            · contradiction
        · contradiction
    | _ => contradiction
  · rintro ⟨fields, date, rfl, howner, hdate, hcreated, hmodified, hid, hcontent⟩
    obtain ⟨id, owner, content, created, modified⟩ := entry
    subst hid hcontent
    unfold readEntry
    simp only [howner, hdate, bind_eq_ok_iff]
    exact ⟨created, hcreated, modified, hmodified, rfl⟩

/-- The content of a document is nested less deep than the document. -/
theorem fits_of_readEntry {key : Text} {value : Json} {entry : SnapshotEntry}
    (hvalue : value.Fits .file (room + 1)) (h : readEntry key value = .ok entry) :
    entry.content.Fits .file room := by
  obtain ⟨fields, date, rfl, -, -, -, -, -, hcontent⟩ := readEntry_eq_ok_iff.mp h
  rw [hcontent]
  cases hfield : fieldOf? fields "content" with
  | none => exact ⟨trivial, Nat.zero_le room⟩
  | some content =>
      exact ((Json.fits_object_iff.mp hvalue).2 _ (mem_of_fieldOf?_eq_some hfield)).2

/-! ## Share records -/

theorem nodup_firsts (items : List Text) : (firsts items).Nodup := by
  unfold firsts
  have hstep (known : List Text) (hknown : known.Nodup) : (items.foldl
      (fun known item => if known.contains item then known else known ++ [item]) known).Nodup := by
    induction items generalizing known with
    | nil => exact hknown
    | cons item items ih =>
        rw [List.foldl_cons]
        split
        · exact ih known hknown
        · next hnew =>
            apply ih
            rw [List.contains_iff_mem] at hnew
            exact hknown.append (List.nodup_singleton item) (List.disjoint_singleton.mpr hnew)
  exact hstep [] List.nodup_nil

/-- What stands under a key is read as a share record for it, in which no profile repeats. -/
theorem readShare_ok {key : Text} {value : Json} {share : Text × List Text}
    (h : readShare key value = .ok share) : share.1 = key ∧ share.2.Nodup := by
  cases value with
  | object fields =>
      unfold readShare at h
      simp only at h
      split at h
      · rw [← Except.ok.inj h]
        exact ⟨rfl, List.nodup_nil⟩
      · split at h
        · next profiles _ =>
            rw [← Except.ok.inj h]
            exact ⟨rfl, nodup_firsts profiles⟩
        · contradiction
      · contradiction
  | _ => contradiction

/-! ## Snapshots -/

/-- What holds of every snapshot that has been read. -/
structure IsAccepted [Limits] (snapshot : Snapshot) : Prop where
  /-- Around each content there are three objects in the file. -/
  contents : ∀ entry ∈ snapshot.entries, entry.content.Fits .file (Limits.snapshot - 3)
  /-- There is one share record for each document. -/
  shares : (snapshot.shares.map (·.1)).Nodup
  profiles : ∀ share ∈ snapshot.shares, share.2.Nodup

/-- The fields of a section have distinct names, and their values are nested less deep than the
file. -/
theorem fits_of_section? {fields entries : List (Text × Json)} {name : Text}
    (hfields : (Json.object fields).Fits .file (room + 2))
    (h : section? fields name = some entries) :
    (entries.map (·.1)).Nodup ∧ ∀ entry ∈ entries, entry.2.Fits .file room := by
  unfold section? at h
  split at h
  · rw [← Option.some.inj h]
    exact ⟨List.nodup_nil, List.forall_mem_nil _⟩
  · rw [← Option.some.inj h]
    exact ⟨List.nodup_nil, List.forall_mem_nil _⟩
  · next hvalue =>
      rw [← Option.some.inj h]
      have hsection := ((Json.fits_object_iff.mp hfields).2 _ (mem_of_fieldOf?_eq_some hvalue)).2
      obtain ⟨hnames, hentries⟩ := Json.fits_object_iff.mp hsection
      exact ⟨hnames, fun entry hentry => (hentries entry hentry).2⟩
  · contradiction

/-- A snapshot is read from the value of its file section by section. -/
theorem ofJson_eq_ok_iff {value : Json} {snapshot : Snapshot} :
    ofJson value = .ok snapshot ↔ ∃ fields documents records, value = .object fields ∧
      (section? fields "documents") = some documents ∧
      (section? fields "share_records") = some records ∧
      (documents.mapM fun (key, value) => readEntry key value) = .ok snapshot.entries ∧
      (records.mapM fun (key, value) => readShare key value) = .ok snapshot.shares := by
  constructor
  · intro h
    cases value with
    | object fields =>
        unfold ofJson at h
        simp only at h
        split at h
        · next documents records hdocuments hrecords =>
            simp only [bind_eq_ok_iff] at h
            obtain ⟨entries, hentries, shares, hshares, h⟩ := h
            rw [← Except.ok.inj h]
            exact ⟨fields, documents, records, rfl, hdocuments, hrecords, hentries, hshares⟩
        · contradiction
    | _ => contradiction
  · rintro ⟨fields, documents, records, rfl, hdocuments, hrecords, hentries, hshares⟩
    simp only [ofJson, hdocuments, hrecords, bind_eq_ok_iff]
    exact ⟨snapshot.entries, hentries, snapshot.shares, hshares, rfl⟩

/-- A content of a snapshot has room in a row. -/
theorem IsAccepted.fits_row [Limits] {snapshot : Snapshot} (h : snapshot.IsAccepted)
    {entry : SnapshotEntry} (hentry : entry ∈ snapshot.entries) :
    entry.content.Fits .file Limits.row :=
  (h.contents entry hentry).mono (Nat.sub_le_iff_le_add.mpr Limits.snapshot_le_row)

theorem isAccepted_of_ofJson [Limits] {value : Json} {snapshot : Snapshot}
    (hvalue : value.Fits .file Limits.snapshot) (h : ofJson value = .ok snapshot) :
    snapshot.IsAccepted := by
  obtain ⟨room, hroom⟩ := Nat.exists_eq_add_of_le' Limits.three_le_snapshot
  rw [hroom] at hvalue
  obtain ⟨fields, documents, records, rfl, hdocuments, hrecords, hentries, hshares⟩ :=
    ofJson_eq_ok_iff.mp h
  have hnames : snapshot.shares.map (·.1) = records.map (·.1) := by
    rw [← List.forall₂_eq_eq_eq, List.forall₂_map_left_iff, List.forall₂_map_right_iff]
    exact (mapM_eq_ok_iff.mp hshares).flip.imp fun _ _ hread => (readShare_ok hread).1
  constructor
  · intro entry hentry
    obtain ⟨document, hdocument, hread⟩ := exists_of_mem_of_mapM hentries hentry
    rw [hroom, Nat.add_sub_cancel]
    exact fits_of_readEntry ((fits_of_section? hvalue hdocuments).2 document hdocument) hread
  · rw [hnames]
    exact (fits_of_section? hvalue hrecords).1
  · intro share hshare
    obtain ⟨record, -, hread⟩ := exists_of_mem_of_mapM hshares hshare
    exact (readShare_ok hread).2

/-- A snapshot is read if the path is one and the file there holds the form of a text that is
one. -/
theorem load_eq_ok_iff [Limits] {tree : FileTree} {working : Location} {path : Text}
    {snapshot : Snapshot} : load tree working path = .ok snapshot ↔
      FilePath.check path = .ok () ∧ ∃ octets s, tree.read working path = .ok octets ∧
        Utf8.encode s = some octets ∧ ofText s = .ok snapshot := by
  unfold load
  constructor
  · intro h
    cases hpath : FilePath.check path with
    | error problem =>
        rw [hpath] at h
        contradiction
    | ok _ =>
        simp only [hpath] at h
        split at h
        · next octets hoctets =>
            unfold ofOctets at h
            split at h
            · next s hs => exact ⟨rfl, octets, s, hoctets, Utf8.decode_eq_some_iff.mp hs, h⟩
            · contradiction
        · contradiction
  · rintro ⟨hpath, octets, s, hoctets, hs, h⟩
    simp only [hpath, hoctets, ofOctets, Utf8.decode_eq_some_iff.mpr hs, h]

/-- The text that has been written for a value is read as that value. -/
theorem ofText_write [Limits] (style : Json.Style) {value : Json}
    (hreadable : value.IsReadable .file) (hdepth : value.depth ≤ Limits.snapshot) :
    ofText (value.write style) = ofJson value := by
  simp only [ofText, Json.read_write style hreadable hdepth]

/-- What a snapshot has been read from is a value that can be written and read again. -/
theorem exists_value_of_load [Limits] {tree : FileTree} {working : Location} {path : Text}
    {snapshot : Snapshot} (h : load tree working path = .ok snapshot) :
    ∃ value, value.Fits .file Limits.snapshot ∧ ofJson value = .ok snapshot := by
  obtain ⟨-, octets, s, -, hs, h⟩ := load_eq_ok_iff.mp h
  have hplain := Utf8.isWellFormed_of_decode (Utf8.decode_eq_some_iff.mpr hs)
  unfold ofText at h
  split at h
  · next value hvalue => exact ⟨value, Json.fits_of_read rfl hplain hvalue, h⟩
  all_goals contradiction

/-- Whatever file a snapshot has been read from, it can be stored. -/
theorem isAccepted_of_load [Limits] {tree : FileTree} {working : Location} {path : Text}
    {snapshot : Snapshot} (h : load tree working path = .ok snapshot) : snapshot.IsAccepted := by
  obtain ⟨value, hvalue, hread⟩ := exists_value_of_load h
  exact isAccepted_of_ofJson hvalue hread

/-- Each document has been read from what stands under some key. -/
theorem exists_readEntry_of_load [Limits] {tree : FileTree} {working : Location} {path : Text}
    {snapshot : Snapshot} (h : load tree working path = .ok snapshot) {entry : SnapshotEntry}
    (hentry : entry ∈ snapshot.entries) : ∃ key value, readEntry key value = .ok entry := by
  obtain ⟨value, -, hread⟩ := exists_value_of_load h
  obtain ⟨fields, documents, records, rfl, -, -, hentries, -⟩ := ofJson_eq_ok_iff.mp hread
  obtain ⟨document, -, hread⟩ := exists_of_mem_of_mapM hentries hentry
  exact ⟨document.1, document.2, hread⟩

end Snapshot

end ContentQuery

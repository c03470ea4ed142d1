import ContentQuery.Proofs.LoadableSnapshot

/-!
# ContentQuery.Proofs.LoadHistory

Whatever is loaded into a store, one attempt after another and with whatever success, it holds what
the last attempt that completed has brought, and what it held at first if none has.
-/

namespace ContentQuery

/-! ## Attempts -/

/-- Why an attempt to load a snapshot fails. -/
inductive LoadFailure where
  | load (error : LoadError)
  /-- Something else fails in the session once the snapshot has been loaded. -/
  | later

/-- An attempt to load a snapshot into a store, in a session of its own. -/
structure LoadAttempt where
  /-- The tree of files when the attempt is made. -/
  files : FileTree
  create : Bool
  working : Location
  path : Text
  /-- If something else fails in the session after the load, the rows that have been written by
  then. -/
  failing : Option Database

namespace LoadAttempt

/-- What is done in the session. -/
def work [Limits] [Engine] (attempt : LoadAttempt) (store : OpenStore) :
    Transaction LoadFailure Transaction.Report := do
  let report ← ExceptT.adapt .load (Transaction.load store.tree attempt.working attempt.path)
  match attempt.failing with
  | none => return report
  | some written => do
    set written
    throw .later

/-- What an attempt on the store at a location comes to. -/
def run [Limits] [Engine] (attempt : LoadAttempt) (place : Location) :
    FileTree × Except (SessionError LoadFailure) Transaction.Report :=
  attempt.files.session place attempt.create attempt.work

/-- Whether an attempt completes. -/
def completes [Limits] [Engine] (attempt : LoadAttempt) (place : Location) : Bool :=
  (attempt.run place).2.isOk

/-- The snapshot that the file of an attempt holds when the store is open. -/
def source [Limits] [Engine] (attempt : LoadAttempt) (place : Location) :
    Except Snapshot.ReadError Snapshot :=
  Snapshot.load (attempt.files.openStore place attempt.create).1 attempt.working attempt.path

variable {attempt : LoadAttempt} {place : Location} {rows : Database}

theorem carryOut_work_eq_ok_iff [Limits] [Engine] {store : OpenStore} {report : Transaction.Report}
    {written : Database} : (attempt.work store).carryOut rows = (.ok report, written) ↔
      attempt.failing = none ∧
        (Transaction.load store.tree attempt.working attempt.path).carryOut rows =
          (.ok report, written) := by
  unfold work
  rw [Transaction.carryOut_bind_eq_ok_iff]
  simp only [Transaction.carryOut_adapt_eq_ok_iff]
  cases attempt.failing with
  | none =>
      simp only [Transaction.carryOut_pure_eq_ok_iff, true_and]
      constructor
      · rintro ⟨_, _, hload, rfl, rfl⟩
        exact hload
      · exact fun hload => ⟨report, written, hload, rfl, rfl⟩
  | some other =>
      constructor
      · rintro ⟨_, middle, -, hfailed⟩
        exact absurd (Prod.mk.inj hfailed).1 nofun
      · exact fun h => absurd h.1 nofun

/-! ### What an attempt leaves -/

/-- An attempt on a store that is there completes exactly if its snapshot can be read, the rows of
the snapshot can be written and nothing fails afterwards. These are then the rows of the store.
Otherwise the store has the rows that it had. -/
theorem run_cases [Limits] [Engine] [Engine.Lawful] (h : attempt.files.rows? place = some rows) :
    (attempt.completes place = true ∧ attempt.failing = none ∧ ∃ snapshot db,
      attempt.source place = .ok snapshot ∧ (rows.replaceBy snapshot).result = .ok db ∧
        (attempt.run place).1.rows? place = some db) ∨
    (attempt.completes place = false ∧ (attempt.run place).1.rows? place = some rows ∧
      ∀ snapshot db, attempt.failing = none → attempt.source place = .ok snapshot →
        (rows.replaceBy snapshot).result ≠ .ok db) := by
  obtain ⟨store, hopen, rfl⟩ := FileTree.rows?_eq_some_iff.mp h
  have hsource : attempt.source place =
      Snapshot.load store.tree attempt.working attempt.path := by
    rw [source, hopen.openStore_eq]
  rcases hopen.session_cases attempt.create attempt.work with
    ⟨report, db, hrun, hended, hrows⟩ | ⟨e, written, hrun, hended, hrows⟩
  · left
    obtain ⟨hfailing, hload⟩ := carryOut_work_eq_ok_iff.mp hrun
    obtain ⟨snapshot, hread, hresult, -⟩ := Transaction.carryOut_load_eq_ok_iff.mp hload
    refine ⟨?_, hfailing, snapshot, db, hsource.trans hread, hresult, hrows⟩
    rw [completes, run, hended]
    rfl
  · right
    refine ⟨?_, hrows, ?_⟩
    · rw [completes, run, hended]
      rfl
    · intro snapshot db hfailing hread hresult
      rw [hsource] at hread
      have hload := Transaction.carryOut_load_eq_ok_iff.mpr ⟨snapshot, hread, hresult, rfl⟩
      have hok := carryOut_work_eq_ok_iff.mpr ⟨hfailing, hload⟩
      exact absurd (Prod.mk.inj (hrun.symm.trans hok)).1 nofun

theorem completes_iff [Limits] [Engine] [Engine.Lawful]
    (h : attempt.files.rows? place = some rows) :
    attempt.completes place = true ↔ attempt.failing = none ∧ ∃ snapshot db,
      attempt.source place = .ok snapshot ∧ (rows.replaceBy snapshot).result = .ok db := by
  rcases run_cases h with
    ⟨hcompletes, hfailing, snapshot, db, hread, hresult, -⟩ | ⟨hfails, -, hnone⟩
  · exact ⟨fun _ => ⟨hfailing, snapshot, db, hread, hresult⟩, fun _ => hcompletes⟩
  · rw [hfails]
    constructor
    · exact fun htrue => absurd htrue Bool.false_ne_true
    · exact fun ⟨hfailing, snapshot, db, hread, hresult⟩ =>
        absurd hresult (hnone snapshot db hfailing hread)

/-- What an attempt leaves: the rows that there were if it fails, and none but those of its snapshot
if it completes. -/
theorem rows?_run [Limits] [Engine] [Engine.Lawful] (h : attempt.files.rows? place = some rows) :
    ∃ db, (attempt.run place).1.rows? place = some db ∧
      (attempt.completes place = false → db = rows) ∧
      (attempt.completes place = true → ∃ snapshot, attempt.source place = .ok snapshot ∧
        db.Keeps snapshot) := by
  rcases run_cases h with ⟨hcompletes, -, snapshot, db, hread, hresult, hrows⟩ | ⟨hfails, hrows, -⟩
  · refine ⟨db, hrows, fun hfails => ?_, fun _ => ?_⟩
    · exact absurd (hfails.symm.trans hcompletes) Bool.false_ne_true
    · have haccepted := Snapshot.isAccepted_of_load hread
      exact ⟨snapshot, hread, Database.keeps_of_replaceBy haccepted hresult⟩
  · refine ⟨rows, hrows, fun _ => rfl, fun hcompletes => ?_⟩
    exact absurd (hfails.symm.trans hcompletes) Bool.false_ne_true

end LoadAttempt

/-! ## Histories -/

/-- How a tree of files comes to be from another one by attempts to load snapshots into the store at
a location. Between them, anything may happen that leaves the rows of the store as they are. -/
inductive LoadHistory [Limits] [Engine] (place : Location) (start : FileTree) :
    List LoadAttempt → FileTree → Prop where
  | nil : LoadHistory place start [] start
  | elsewhere {attempts : List LoadAttempt} {tree next : FileTree} :
      LoadHistory place start attempts tree → next.rows? place = tree.rows? place →
        LoadHistory place start attempts next
  | attempt {attempts : List LoadAttempt} (attempt : LoadAttempt) :
      LoadHistory place start attempts attempt.files →
        LoadHistory place start (attempts ++ [attempt]) (attempt.run place).1

/-- After any number of attempts to load snapshots into a store that is there, it holds exactly what
the last one that completed has read, and what it held at first if none has completed. -/
theorem loads_all_or_nothing [Limits] [Engine] [Engine.Lawful] {place : Location}
    {start last : FileTree} {attempts : List LoadAttempt} {rows : Database}
    (h : LoadHistory place start attempts last) (hrows : start.rows? place = some rows) :
    ∃ db, last.rows? place = some db ∧
      match (attempts.filter fun attempt => attempt.completes place).getLast? with
      | none => db = rows
      | some attempt => ∃ snapshot, attempt.source place = .ok snapshot ∧
          db.Keeps snapshot := by
  induction h with
  | nil => exact ⟨rows, hrows, rfl⟩
  | elsewhere _ hsame ih =>
      obtain ⟨db, hdb, hlast⟩ := ih
      exact ⟨db, hsame.trans hdb, hlast⟩
  | attempt attempt _ ih =>
      obtain ⟨db, hdb, hlast⟩ := ih
      obtain ⟨next, hnext, hfailed, hcompleted⟩ := attempt.rows?_run hdb
      refine ⟨next, hnext, ?_⟩
      rw [List.filter_append]
      cases hcompletes : attempt.completes place with
      | false =>
          have hnone : [attempt].filter (fun attempt => attempt.completes place) = [] := by
            simp [hcompletes]
          rw [hnone, List.append_nil, hfailed hcompletes]
          exact hlast
      | true =>
          have hone : [attempt].filter (fun attempt => attempt.completes place) = [attempt] := by
            simp [hcompletes]
          rw [hone, List.getLast?_concat]
          exact hcompleted hcompletes

namespace Sample

/-- A store with a row of its own. -/
def ownRows : Database := ⟨[⟨"b", "carol", "1", start, start⟩], [⟨"b", "bob"⟩]⟩

/-- A directory with this store and the file of a snapshot. -/
def storeTree : FileTree := ⟨(["d"], .store ownRows) :: tree.entries⟩

/-- An attempt to load a file that is not there. -/
def missing : LoadAttempt := ⟨storeTree, false, [], "t", none⟩

/-- After it, an attempt to load the snapshot. -/
def loading : LoadAttempt := ⟨(missing.run ["d"]).1, false, [], "s", none⟩

/-- After this, another one, which fails when all rows have been deleted again. -/
def failing : LoadAttempt := ⟨(loading.run ["d"]).1, true, [], "s", some .empty⟩

theorem rows?_missing : missing.files.rows? ["d"] = some ownRows := rfl

theorem rows?_loading : loading.files.rows? ["d"] = some ownRows := rfl

theorem source_loading : loading.source ["d"] = .ok snapshot := load_of_read rfl rfl

theorem completes_loading : loading.completes ["d"] = true := by
  have hresult := Database.replaceBy_of_isStorable (Snapshot.isAccepted_of_load load_tree)
    isStorable_snapshot ownRows
  exact (LoadAttempt.completes_iff rows?_loading).mpr ⟨rfl, _, _, source_loading, hresult⟩

theorem files_failing : failing.files = (loading.run ["d"]).1 := by
  rw [failing]

theorem completes_failing : failing.completes ["d"] = false := by
  obtain ⟨db, hrows, -⟩ := LoadAttempt.rows?_run rows?_loading
  rw [← files_failing] at hrows
  rw [← Bool.not_eq_true, LoadAttempt.completes_iff hrows]
  exact fun h => absurd h.1 nofun

/-- An attempt to load documents of which one has a truth value as its id. -/
def flagging : LoadAttempt := ⟨besideStore flagged, false, [], "s", none⟩

/-- The snapshot that it reads. -/
def flaggedSnapshot : Snapshot := ⟨[entry (.bool true), entry (.string "b")], []⟩

theorem keptDocuments_flaggedSnapshot : flaggedSnapshot.keptDocuments =
    [document "1" "o" (.json .null), document "b" "o" (.json .null)] :=
  List.mergeSort_of_pairwise (List.pairwise_pair.mpr rfl)

end Sample

open Sample in
/-- A store with a row of its own, after an attempt that finds no file, one that loads a snapshot
and one that fails in the end: it holds the documents and share records of the snapshot. -/
theorem loads_all_or_nothing_of_failures :
    LoadHistory ["d"] storeTree [missing, loading, failing] (failing.run ["d"]).1 ∧
      ∃ db, (failing.run ["d"]).1.rows? ["d"] = some db ∧ db.Keeps snapshot := by
  have hstart : LoadHistory ["d"] storeTree [] missing.files := .nil
  have hmissed : LoadHistory ["d"] storeTree [missing] loading.files := hstart.attempt missing
  have hloaded : LoadHistory ["d"] storeTree [missing, loading] failing.files :=
    files_failing ▸ hmissed.attempt loading
  have hhistory : LoadHistory ["d"] storeTree [missing, loading, failing] (failing.run ["d"]).1 :=
    hloaded.attempt failing
  have hlast : ([missing, loading, failing].filter fun attempt =>
      attempt.completes ["d"]).getLast? = some loading := by
    have hmissing : missing.completes ["d"] = false := rfl
    simp [hmissing, completes_loading, completes_failing]
  have hkept := loads_all_or_nothing hhistory rows?_missing
  simp only [hlast] at hkept
  obtain ⟨db, hrows, loaded, hread, hkeeps⟩ := hkept
  obtain rfl := Except.ok.inj (source_loading.symm.trans hread)
  exact ⟨hhistory, db, hrows, hkeeps⟩

open Sample in
/-- What a store holds after an attempt that has completed need not be what its snapshot had: of a
truth value that is an id it keeps a text. -/
theorem document_of_other_id_after_load :
    LoadHistory ["d"] (besideStore flagged) [flagging] (flagging.run ["d"]).1 ∧
      flagging.completes ["d"] = true ∧ flagging.source ["d"] = .ok flaggedSnapshot ∧
      flaggedSnapshot.entries.map (·.id) = [.bool true, .string "b"] ∧
      ∃ db, (flagging.run ["d"]).1.rows? ["d"] = some db ∧
        db.allDocuments = .ok [document "1" "o" (.json .null), document "b" "o" (.json .null)] := by
  have hrows : flagging.files.rows? ["d"] = some .empty := rows?_besideStore flagged
  have hsource : flagging.source ["d"] = .ok flaggedSnapshot := flagged_loads.1
  have haccepted := Snapshot.isAccepted_of_load hsource
  have hcompletes : flagging.completes ["d"] = true := by
    rw [LoadAttempt.completes_iff hrows]
    obtain ⟨db, hresult⟩ := (Database.exists_replaceBy_iff haccepted hasOctets_flagged .empty).mpr
      hasDistinctKeys_flagged
    exact ⟨rfl, _, db, hsource, hresult⟩
  obtain ⟨db, hafter, -, hcompleted⟩ := LoadAttempt.rows?_run hrows
  obtain ⟨loaded, hread, hkeeps⟩ := hcompleted hcompletes
  obtain rfl := Except.ok.inj (hsource.symm.trans hread)
  have hstart : LoadHistory ["d"] (besideStore flagged) [] flagging.files := .nil
  refine ⟨hstart.attempt flagging, hcompletes, hsource, rfl, db, hafter, ?_⟩
  rw [hkeeps.documents, keptDocuments_flaggedSnapshot]

end ContentQuery

import ContentQuery.Database.Session
import ContentQuery.Proofs.LoadedStore

/-!
# ContentQuery.Proofs.Transactions

Transactions that end well. What has been written step by step is then what the same steps come to
one after another, and a load in a transaction leaves the rows that loading a snapshot gives.
-/

namespace ContentQuery

namespace Transaction

variable {ε ε' α β : Type} {db written : Database}

/-! ## Steps -/

/-- A transaction that only returns leaves the rows as they are. -/
theorem carryOut_pure_eq_ok_iff {a b : α} :
    carryOut (pure a : Transaction ε α) db = (.ok b, written) ↔ a = b ∧ db = written := by
  have hrun : carryOut (pure a : Transaction ε α) db = (.ok a, db) := rfl
  simp [hrun]

/-- One transaction after the other gives a result exactly if the first one does and the second one
does on the rows that the first has left. -/
theorem carryOut_bind_eq_ok_iff {first : Transaction ε α} {next : α → Transaction ε β} {b : β} :
    carryOut (first >>= next) db = (.ok b, written) ↔
      ∃ a middle, carryOut first db = (.ok a, middle) ∧
        carryOut (next a) middle = (.ok b, written) := by
  have hstep : carryOut (first >>= next) db =
      ExceptT.bindCont next (carryOut first db).1 (carryOut first db).2 := rfl
  rw [hstep]
  rcases carryOut first db with ⟨e | a, middle⟩
  · have hfailed : ExceptT.bindCont next (.error e) middle = (.error e, middle) := rfl
    simp [hfailed]
  · have hnext : ExceptT.bindCont next (.ok a) middle = carryOut (next a) middle := rfl
    simp [hnext, and_assoc]

/-- Changing the rows always succeeds. -/
theorem carryOut_modify_eq_ok_iff {f : Database → Database} {u : PUnit} :
    carryOut (modify f : Transaction ε PUnit) db = (.ok u, written) ↔ f db = written := by
  have hrun : carryOut (modify f : Transaction ε PUnit) db = (.ok u, f db) := rfl
  simp [hrun]

/-- Naming a cause of failure in another way makes no difference to success. -/
theorem carryOut_adapt_eq_ok_iff {first : Transaction ε α} {cause : ε → ε'} {a : α} :
    carryOut (ExceptT.adapt cause first) db = (.ok a, written) ↔
      carryOut first db = (.ok a, written) := by
  have hrun : carryOut (ExceptT.adapt cause first) db =
      ((carryOut first db).1.mapError cause, (carryOut first db).2) := rfl
  rw [hrun]
  rcases carryOut first db with ⟨_ | b, middle⟩
  · simp [Except.mapError]
  · simp [Except.mapError]

/-- A step that writes rows succeeds exactly if it gives rows, and leaves these. -/
theorem carryOut_write_eq_ok_iff {step : Database → Except ε Database} {u : Unit} :
    carryOut (write step) db = (.ok u, written) ↔ step db = .ok written := by
  unfold carryOut write
  simp only [ExceptT.run, ExceptT.mk]
  split
  · next next hnext => simp [hnext]
  · next e hfails => simp [hfails]

/-- Items are written one after another. -/
theorem carryOut_forM_eq_ok_iff {items : List α} {step : Database → α → Except ε Database}
    {u : PUnit} :
    carryOut (items.forM fun item => write fun db => step db item) db = (.ok u, written) ↔
      items.foldlM step db = .ok written := by
  induction items generalizing db with
  | nil =>
      rw [List.forM_eq_forM, List.forM_nil, List.foldlM_nil, carryOut_pure_eq_ok_iff]
      simp [pure, Except.pure]
  | cons item items ih =>
      rw [List.forM_eq_forM] at ih ⊢
      rw [List.forM_cons, List.foldlM_cons, carryOut_bind_eq_ok_iff, bind_eq_ok_iff]
      simp only [carryOut_write_eq_ok_iff, ih]
      exact ⟨fun ⟨_, middle, h⟩ => ⟨middle, h⟩, fun ⟨middle, h⟩ => ⟨(), middle, h⟩⟩

/-! ## Loads -/

/-- The rows of a snapshot are inserted exactly if its entries and its known shares can be, one
after the other, and the report counts the entries and names the unknown shares. -/
theorem carryOut_insertRows_eq_ok_iff [Engine] {snapshot : Snapshot} {report : Report} :
    let (known, unknown) := snapshot.shares.partition fun share => Database.holds snapshot share.1
    carryOut (insertRows snapshot) db = (.ok report, written) ↔
      (snapshot.entries.foldlM Database.insertDocument db >>= fun db =>
        (Database.sharePairs known).foldlM Database.insertShare db) = .ok written ∧
      report = ⟨unknown.map (·.1), snapshot.entries.length⟩ := by
  unfold insertRows
  simp only [carryOut_bind_eq_ok_iff, carryOut_forM_eq_ok_iff, carryOut_pure_eq_ok_iff,
    bind_eq_ok_iff]
  constructor
  · rintro ⟨-, middle, hdocuments, -, _, hshares, rfl, rfl⟩
    exact ⟨⟨middle, hdocuments, hshares⟩, rfl⟩
  · rintro ⟨⟨middle, hdocuments, hshares⟩, rfl⟩
    exact ⟨⟨⟩, middle, hdocuments, ⟨⟩, _, hshares, rfl, rfl⟩

/-- Rows are replaced in a transaction exactly if they are replaced at once, by the same rows. -/
theorem carryOut_replaceBy_eq_ok_iff [Engine] {snapshot : Snapshot} {report : Report} :
    carryOut (replaceBy snapshot) db = (.ok report, written) ↔
      (db.replaceBy snapshot).result = .ok written ∧
        report = ⟨(db.replaceBy snapshot).ignored, snapshot.entries.length⟩ := by
  unfold replaceBy Database.replaceBy
  simp only [carryOut_bind_eq_ok_iff, carryOut_modify_eq_ok_iff, exists_const, exists_eq_left']
  split
  · exact carryOut_insertRows_eq_ok_iff
  · constructor
    · exact fun h => absurd (Prod.mk.inj h).1 nofun
    · exact fun h => absurd h.1 nofun

/-- A load in a transaction ends well exactly if the snapshot can be read and its rows can be
written. -/
theorem carryOut_load_eq_ok_iff [Limits] [Engine] {tree : FileTree} {working : Location}
    {path : Text} {report : Report} :
    carryOut (load tree working path) db = (.ok report, written) ↔
      ∃ snapshot, Snapshot.load tree working path = .ok snapshot ∧
        (db.replaceBy snapshot).result = .ok written ∧
        report = ⟨(db.replaceBy snapshot).ignored, snapshot.entries.length⟩ := by
  unfold load
  cases Snapshot.load tree working path with
  | error e =>
      constructor
      · exact fun h => absurd (Prod.mk.inj h).1 nofun
      · exact fun ⟨_, h, _⟩ => absurd h nofun
  | ok snapshot =>
      simp only [carryOut_adapt_eq_ok_iff, carryOut_replaceBy_eq_ok_iff, Except.ok.injEq,
        exists_eq_left']

/-- A load in a transaction leaves the rows that loading the snapshot gives, and ends well exactly
if it gives any. -/
theorem exists_carryOut_load_iff [Limits] [Engine] {tree : FileTree} {working : Location}
    {path : Text} :
    (∃ report, carryOut (load tree working path) db = (.ok report, written)) ↔
      (loadSnapshot db tree working path).result = .ok written := by
  rw [loadSnapshot_eq_ok_iff]
  simp only [carryOut_load_eq_ok_iff]
  constructor
  · rintro ⟨report, snapshot, hread, hresult, -⟩
    exact ⟨snapshot, hread, hresult⟩
  · rintro ⟨snapshot, hread, hresult⟩
    exact ⟨_, snapshot, hread, hresult, rfl⟩

end Transaction

end ContentQuery

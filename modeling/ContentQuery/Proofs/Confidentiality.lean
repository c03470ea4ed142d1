import ContentQuery.Proofs.Reference

/-!
# ContentQuery.Proofs.Confidentiality

What a search lets a user know. Everything that it brings to light, its errors and reports too, is
determined by the documents that the user sees; and these are the user's own and those that are
shared with the user.
-/

namespace ContentQuery

/-- Whether a document is the user's own or has a share record that lists the user. -/
def Store.Grants (store : Store) (user : Text) (d : Document) : Prop :=
  d.owner = user ∨ ∃ users, store.sharedWith? d.id = some users ∧ user ∈ users

/-- No scope lets a user see more. -/
theorem Scope.grants_of_admits {scope : Scope} {store : Store} {user : Text} {d : Document}
    (h : scope.admits store user d = true) : store.Grants user d := by
  have hshared (hrecord : ((store.sharedWith? d.id).getD []).contains user = true) :
      store.Grants user d := by
    cases hfound : store.sharedWith? d.id with
    | none => simp [hfound] at hrecord
    | some users =>
        rw [hfound, Option.getD_some, List.contains_iff_mem] at hrecord
        exact .inr ⟨users, hfound, hrecord⟩
  cases scope with
  | owned => exact .inl (by simpa [admits] using h)
  | shared =>
      simp only [admits, Bool.and_eq_true] at h
      exact hshared h.2
  | all =>
      simp only [admits, Bool.or_eq_true, Bool.and_eq_true, decide_eq_true_eq] at h
      exact h.elim .inl fun hrecord => hshared hrecord.2

namespace Search

/-- Two stores whose documents are the same as far as the user sees them give the same report. -/
theorem run_eq_of_seen_eq [Limits] {store store' : Store} (hstore : IsCoherent store)
    (hstore' : IsCoherent store') {user : Text} {p : Plan}
    (h : seen store user p.scope = seen store' user p.scope) :
    run store user p = run store' user p := by
  apply run_congr
  rw [filter_candidates hstore, filter_candidates hstore']
  exact h

/-- Only documents that the user sees are reported. -/
theorem mem_seen_of_skipped [Limits] {store : Store} (hstore : IsCoherent store) {user : Text}
    {p : Plan} {s : Skipped} (hs : s ∈ (run store user p).skipped) :
    ∃ d ∈ seen store user p.scope, s.document = d.id := by
  simp only [run, scan_candidates hstore, scan_eq, reached, List.mem_filterMap] at hs
  obtain ⟨d, hd, hreport⟩ := hs
  exact ⟨d, (List.takeWhile_prefix _).subset hd, (failure?_eq_some_iff.mp hreport).1⟩

end Search

/-- A search has the same outcome on all documents in memory that are the same as far as the user
sees them in its scope; and whatever it returns or reports is the user's own or shared with the
user. -/
theorem search_confidential [Limits] (documents : List Document) (shares : List (Text × List Text))
    (request : SearchRequest) :
    let store := (MemoryStore.ofLists documents shares).toStore
    (∀ (documents' : List Document) (shares' : List (Text × List Text)),
      let store' := (MemoryStore.ofLists documents' shares').toStore
      (∀ scope, Scope.parse request.scope = .ok scope →
        store.documents.filter (scope.admits store request.user) =
          store'.documents.filter (scope.admits store' request.user)) →
      search store request = search store' request) ∧
    ∀ report, search store request = .ok report →
      (∀ result, report.result = .ok result → ∀ d ∈ result.documents,
        d ∈ store.documents ∧ store.Grants request.user d) ∧
      ∀ s ∈ report.skipped, ∃ d ∈ store.documents, s.document = d.id ∧
        store.Grants request.user d := by
  intro store
  have hstore : Search.IsCoherent store := Search.isCoherent_toStore _
  constructor
  · intro documents' shares' store' h
    have hstore' : Search.IsCoherent store' := Search.isCoherent_toStore _
    cases hplan : Search.plan request with
    | error e => rw [search, search, hplan]; rfl
    | ok p =>
        have hscope := ((Search.plan_eq_ok_iff request p).mp hplan).2.1
        rw [search, search, hplan]
        exact congrArg Except.ok (Search.run_eq_of_seen_eq hstore hstore' (h p.scope hscope))
  · intro report hreport
    obtain ⟨p, -, rfl⟩ := (Search.search_eq_ok_iff _ _ _).mp hreport
    constructor
    · intro result hresult d hd
      obtain ⟨hmem, hadmits⟩ := List.mem_filter.mp (Search.mem_seen_of_returned hstore hresult hd).1
      exact ⟨hmem, Scope.grants_of_admits hadmits⟩
    · intro s hs
      obtain ⟨d, hd, hid⟩ := Search.mem_seen_of_skipped hstore hs
      obtain ⟨hmem, hadmits⟩ := List.mem_filter.mp hd
      exact ⟨d, hmem, hid, Scope.grants_of_admits hadmits⟩

/-- A document of another user that the condition would fail for, and its share record for someone
else, cannot be told from their absence. -/
theorem search_confidential_of_hidden :
    let request := Sample.request "alice" "all" "n equals x"
    let hidden := Sample.document "c" "bob" (.json (.object []))
    search (MemoryStore.ofLists (hidden :: Sample.pair) [("c", ["carol"])]).toStore request =
      search (MemoryStore.ofLists Sample.pair []).toStore request := by
  intro request hidden
  apply (search_confidential (hidden :: Sample.pair) [("c", ["carol"])] request).1 Sample.pair []
  intro scope hscope
  obtain rfl : Scope.all = scope := Except.ok.inj (Eq.trans rfl hscope)
  rfl

end ContentQuery

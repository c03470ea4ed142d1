import ContentQuery.Proofs.Arrangement
import ContentQuery.Proofs.Kept
import ContentQuery.Proofs.Sample
import ContentQuery.Proofs.Scan

/-!
# ContentQuery.Proofs.Reference

What a search on documents in memory returns, told without the scan: of the stored documents those
that the user sees and that match, arranged, and of them one page. Documents that cannot be compared
are reported one by one and are as good as absent.
-/

namespace ContentQuery

namespace Search

/-! ## The result of a search -/

/-- The documents of a store that a user sees, in the order of the store. -/
def seen (store : Store) (user : Text) (scope : Scope) : List Document :=
  store.documents.filter (scope.admits store user)

/-- The documents that a search goes through and that the user sees. -/
def visible (store : Store) (user : Text) (scope : Scope) : List Document :=
  (candidates store user scope).filter (scope.admits store user)

theorem visible_eq_seen {store : Store} (hstore : IsCoherent store) (user : Text) (scope : Scope) :
    visible store user scope = seen store user scope :=
  filter_candidates hstore user scope

/-- What a search that has been read returns is made of the documents that it goes through and the
user sees: those that match are arranged and cut, those that fail are reported. -/
theorem run_eq_of_returned [Limits] {store : Store} {user : Text} {p : Plan} {result : SearchResult}
    (h : (run store user p).result = .ok result) :
    (run store user p).skipped = (visible store user p.scope).filterMap (failure? p.query) ∧
      result =
        ⟨p.page.slice (p.sorting.sort ((visible store user p.scope).filter (passes p.query))),
          ((visible store user p.scope).filter (passes p.query)).length, p.page⟩ := by
  unfold run at h ⊢
  simp only at h ⊢
  cases houtcome : (scan (p.scope.admits store user) p.query
      (candidates store user p.scope)).outcome with
  | error cause => simp [houtcome, Except.map] at h
  | ok _ =>
      have hreached := reached_eq_filter houtcome
      simp only [houtcome, Except.map, Except.ok.injEq] at h
      rw [← h, scan_eq, hreached, Page.paginate_number_limit]
      exact ⟨rfl, by simp only [Sorting.sort, List.length_mergeSort, visible]⟩

/-- In a store whose ways to its documents agree, these are the documents of the store that the user
sees. -/
theorem run_eq_of_ok [Limits] {store : Store} (hstore : IsCoherent store) {user : Text} {p : Plan}
    {result : SearchResult} (h : (run store user p).result = .ok result) :
    (run store user p).skipped = (seen store user p.scope).filterMap (failure? p.query) ∧
      result = ⟨p.page.slice (p.sorting.sort ((seen store user p.scope).filter (passes p.query))),
        ((seen store user p.scope).filter (passes p.query)).length, p.page⟩ := by
  rw [← visible_eq_seen hstore]
  exact run_eq_of_returned h

/-- Only documents that the user sees and that match are returned. -/
theorem mem_seen_of_returned [Limits] {store : Store} (hstore : IsCoherent store) {user : Text}
    {p : Plan} {result : SearchResult} (h : (run store user p).result = .ok result) {d : Document}
    (hd : d ∈ result.documents) : d ∈ seen store user p.scope ∧ passes p.query d = true := by
  rw [(run_eq_of_ok hstore h).2] at hd
  have hsorted := List.mem_of_mem_drop (List.mem_of_mem_take hd)
  rwa [Sorting.sort, List.mem_mergeSort, List.mem_filter] at hsorted

/-- A search whose scan breaks off on none of the documents that the user sees returns. -/
theorem exists_result_iff [Limits] {store : Store} (hstore : IsCoherent store) (user : Text)
    (p : Plan) :
    (∃ result, (run store user p).result = .ok result) ↔
      ∀ d ∈ seen store user p.scope, breakdown? p.query d = none := by
  rw [run_returns_iff hstore]
  simp only [seen, List.mem_filter, and_imp]

end Search

/-! ## Searches on documents in memory -/

end ContentQuery

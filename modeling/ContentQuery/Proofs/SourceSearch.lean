import ContentQuery.Proofs.Scan
import ContentQuery.Proofs.Steps
import ContentQuery.Source

/-!
# ContentQuery.Proofs.SourceSearch

Searches in documents and share records that may fail to be read. Where reading succeeds, such a
search is the search in what has been read.
-/

namespace ContentQuery.Source

variable {ε : Type} {source : Source ε} {store : Store} {user : Text} {scope : Scope}

/-- Whether a search in a scope can read all that it asks for, and finds what a store has. -/
structure Reads (source : Source ε) (store : Store) (user : Text) (scope : Scope) : Prop where
  candidates : source.candidates user scope = .ok (Search.candidates store user scope)
  admits : ∀ d ∈ Search.candidates store user scope,
    source.admits scope user d = .ok (scope.admits store user d)

/-- If it can be told of all documents whether they are kept, those are kept of which it is so. -/
theorem keepUntil_eq_filter {keeps : Document → Except ε Bool} {p : Document → Bool}
    {documents : List Document} (h : ∀ d ∈ documents, keeps d = .ok (p d)) :
    keepUntil keeps documents = (documents.filter p, .ok ()) := by
  induction documents with
  | nil => rfl
  | cons d documents ih =>
      obtain ⟨hd, hrest⟩ := List.forall_mem_cons.mp h
      rw [keepUntil, hd, ih hrest, List.filter_cons]

/-- In the view of what has been read a user sees a document if it has been found so. -/
theorem admits_view {d : Document} {seen : Bool} (h : source.admits scope user d = .ok seen)
    (documents : List Document) : scope.admits (source.view documents) user d = seen := by
  have hshared {listed : Bool} (hlisted : ((source.sharedWith? d.id).map fun record =>
      !decide (d.owner = user) && (record.getD []).contains user) = .ok listed) :
      (d.owner ≠ user && (((source.view documents).sharedWith? d.id).getD []).contains user) =
        listed := by
    obtain ⟨record, hrecord, rfl⟩ := map_eq_ok_iff.mp hlisted
    have hview : (source.view documents).sharedWith? d.id = record :=
      (congrArg (fun found => found.toOption.join) hrecord).trans rfl
    rw [hview, decide_not]
  cases scope with
  | owned => exact Except.ok.inj h
  | shared => exact hshared h
  | all =>
      unfold admits at h
      simp only at h
      split at h
      · next howned =>
          rw [Scope.admits, howned, Bool.true_or]
          exact Except.ok.inj h
      · next hother =>
          rw [Bool.not_eq_true] at hother
          rw [Scope.admits, hother, Bool.false_or]
          exact hshared h

/-- A search that has read all that it asked for is reported as it is. -/
theorem Report.until_ok (report : Search.Report) :
    Report.until (ε := ε) report (.ok ()) = .ofSearch report := by
  obtain ⟨skipped, result⟩ := report
  cases result <;> rfl

/-- Where all can be read, a search comes to what it comes to in a store. -/
theorem Reads.run_eq [Limits] {plan : Search.Plan} (h : source.Reads store user plan.scope) :
    source.run user plan = .ofSearch (Search.run store user plan) := by
  have hkept := keepUntil_eq_filter h.admits
  have hview {documents : List Document}
      (hadmitted : ∀ d ∈ documents, source.admits plan.scope user d = .ok true) :
      (Search.candidates (source.view documents) user plan.scope).filter
        (plan.scope.admits (source.view documents) user) = documents := by
    have hall : Search.candidates (source.view documents) user plan.scope = documents := by
      cases plan.scope <;> rfl
    rw [hall, List.filter_eq_self]
    exact fun d hd => admits_view (hadmitted d hd) documents
  rw [run, h.candidates]
  simp only [hkept, Report.until_ok]
  congr 1
  apply Search.run_congr
  apply hview
  intro d hd
  obtain ⟨hd, hadmitted⟩ := List.mem_filter.mp hd
  rw [h.admits d hd, hadmitted]

end ContentQuery.Source

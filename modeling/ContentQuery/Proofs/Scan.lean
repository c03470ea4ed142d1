import ContentQuery.Search
import Mathlib.Data.List.TakeWhile

/-!
# ContentQuery.Proofs.Scan

What a scan brings, said without the recursion: the documents that the user sees up to the first
evaluation that breaks off, cut into those that match, those that do not, and those that are
skipped.
-/

namespace ContentQuery.Search

/-! ## One document -/

/-- Whether the query holds for a document. -/
def passes [Limits] (query : Option Query) (d : Document) : Bool :=
  match matchesQuery d.content query with
  | .ok b => b
  | .error _ => false

/-- The report on a document that has to be skipped. -/
def failure? [Limits] (query : Option Query) (d : Document) : Option Skipped :=
  match matchesQuery d.content query with
  | .error (.failed condition cause) => some ⟨d.id, condition, cause⟩
  | _ => none

/-- Why the evaluation of a document breaks off, if it does. -/
def breakdown? [Limits] (query : Option Query) (d : Document) : Option Breakdown :=
  match matchesQuery d.content query with
  | .error (.broken cause) => some cause
  | _ => none

theorem breakdown?_eq_some_iff [Limits] {query : Option Query} {d : Document} {cause : Breakdown} :
    breakdown? query d = some cause ↔ matchesQuery d.content query = .error (.broken cause) := by
  unfold breakdown?
  split
  · next cause' h => simp [h]
  · next h =>
      simp only [reduceCtorEq, false_iff]
      exact h cause

theorem failure?_eq_some_iff [Limits] {query : Option Query} {d : Document} {s : Skipped} :
    failure? query d = some s ↔
      s.document = d.id ∧ matchesQuery d.content query = .error (.failed s.condition s.cause) := by
  obtain ⟨document, condition, cause⟩ := s
  unfold failure?
  split
  · next condition' cause' h =>
      simp only [h, Option.some.injEq, Skipped.mk.injEq, Except.error.injEq,
        EvaluationError.failed.injEq]
      rw [eq_comm (a := d.id)]
  · next h =>
      simp only [reduceCtorEq, false_iff, not_and]
      intro _
      exact h condition cause

/-- The documents that a scan reaches: those that the user sees, up to the first one whose
evaluation breaks off. -/
def reached [Limits] (sees : Document → Bool) (query : Option Query) (ds : List Document) :
    List Document :=
  (ds.filter sees).takeWhile fun d => (breakdown? query d).isNone

/-- A scan keeps the reached documents that match, reports those that fail, and ends as the first
break among the documents that the user sees has it. -/
theorem scan_eq [Limits] (sees : Document → Bool) (query : Option Query) (ds : List Document) :
    scan sees query ds =
      { matched := (reached sees query ds).filter (passes query)
        skipped := (reached sees query ds).filterMap (failure? query)
        outcome := match (ds.filter sees).findSome? (breakdown? query) with
          | some cause => .error cause
          | none => .ok () } := by
  unfold reached
  induction ds with
  | nil => rfl
  | cons d rest ih =>
      by_cases hsees : sees d = true
      · have hpass : (d :: rest).filter sees = d :: rest.filter sees := by
          rw [List.filter_cons, if_pos hsees]
        rw [scan, hpass, List.takeWhile_cons, List.findSome?_cons]
        simp only [hsees, Bool.not_true, Bool.false_eq_true, if_false]
        cases hm : matchesQuery d.content query with
        | ok b =>
            cases b <;> simp [passes, failure?, breakdown?, hm, ih]
        | error e =>
            cases e <;> simp [passes, failure?, breakdown?, hm, ih]
      · have hpass : (d :: rest).filter sees = rest.filter sees := by
          rw [List.filter_cons, if_neg hsees]
        rw [scan, hpass, ih]
        simp [hsees]

/-- A scan depends only on the documents that the user sees, and on their order. -/
theorem scan_congr [Limits] {sees sees' : Document → Bool} {ds ds' : List Document}
    (query : Option Query) (h : ds.filter sees = ds'.filter sees') :
    scan sees query ds = scan sees' query ds' := by
  rw [scan_eq, scan_eq, reached, reached, h]

/-- A scan comes to the end exactly if no evaluation breaks off. -/
theorem scan_outcome_eq_ok_iff [Limits] (sees : Document → Bool) (query : Option Query)
    (ds : List Document) :
    (scan sees query ds).outcome = .ok () ↔
      ∀ d ∈ ds.filter sees, breakdown? query d = none := by
  rw [scan_eq]
  simp only
  split
  · next cause h =>
      obtain ⟨d, hd, hcause⟩ := List.exists_of_findSome?_eq_some h
      simp only [reduceCtorEq, false_iff]
      intro hnone
      rw [hnone d hd] at hcause
      contradiction
  · next h => simpa [List.findSome?_eq_none_iff] using h

/-- A scan that comes to the end has reached every document that the user sees. -/
theorem reached_eq_filter [Limits] {sees : Document → Bool} {query : Option Query}
    {ds : List Document} (h : (scan sees query ds).outcome = .ok ()) :
    reached sees query ds = ds.filter sees := by
  rw [scan_outcome_eq_ok_iff] at h
  unfold reached
  rw [List.takeWhile_eq_self_iff]
  intro d hd
  rw [h d hd]
  rfl

/-! ## Searches -/

/-- Reading a request succeeds exactly if its query, scope and order can be read. -/
theorem plan_eq_ok_iff (request : SearchRequest) (p : Plan) :
    plan request = .ok p ↔
      Query.parse request.parts = .ok p.query ∧ Scope.parse request.scope = .ok p.scope ∧
        Sorting.parse request.sortField request.direction = .ok p.sorting ∧
        p.page = .ofRequest request.page request.limit := by
  obtain ⟨query, scope, sorting, page⟩ := p
  unfold plan
  cases Query.parse request.parts with
  | error e => simp [Except.mapError, Bind.bind, Except.bind]
  | ok query' =>
      cases Scope.parse request.scope with
      | error e => simp [Except.mapError, Bind.bind, Except.bind]
      | ok scope' =>
          cases Sorting.parse request.sortField request.direction with
          | error e => simp [Except.mapError, Bind.bind, Except.bind]
          | ok sorting' =>
              simp [Except.mapError, Bind.bind, Except.bind, Pure.pure, Except.pure, eq_comm]

/-- A store whose way of its own to the documents of one owner gives those that it lists. -/
def IsCoherent (store : Store) : Prop :=
  ∀ owner, store.ownedBy owner = store.documents.filter fun d => d.owner = owner

theorem isCoherent_toStore (store : MemoryStore) : IsCoherent store.toStore := fun _ => rfl

/-- What a scan has to go through are the documents of the store that the user sees, whichever way
they are taken from it. -/
theorem filter_candidates {store : Store} (h : IsCoherent store) (user : Text) (scope : Scope) :
    (candidates store user scope).filter (scope.admits store user) =
      store.documents.filter (scope.admits store user) := by
  cases scope with
  | owned =>
      rw [candidates, h user, List.filter_filter]
      congr 1
      funext d
      simp [Scope.admits]
  | shared => rfl
  | all => rfl

/-- The scan of a search goes through all documents of the store, as far as its outcome shows. -/
theorem scan_candidates [Limits] {store : Store} (h : IsCoherent store) (user : Text)
    (scope : Scope) (query : Option Query) :
    scan (scope.admits store user) query (candidates store user scope) =
      scan (scope.admits store user) query store.documents :=
  scan_congr query (filter_candidates h user scope)

/-- A search depends only on those of the documents it goes through that the user sees. -/
theorem run_congr [Limits] {store store' : Store} {user : Text} {p : Plan}
    (h : (candidates store user p.scope).filter (p.scope.admits store user) =
      (candidates store' user p.scope).filter (p.scope.admits store' user)) :
    run store user p = run store' user p := by
  unfold run
  rw [scan_congr p.query h]

theorem search_eq_ok_iff [Limits] (store : Store) (request : SearchRequest) (report : Report) :
    search store request = .ok report ↔
      ∃ p, plan request = .ok p ∧ report = run store request.user p := by
  unfold search
  cases plan request <;> simp [Except.map, eq_comm]

/-- A search returns a result exactly if its scan comes to the end. -/
theorem run_returns_iff_outcome [Limits] (store : Store) (user : Text) (p : Plan) :
    (∃ result, (run store user p).result = .ok result) ↔
      (scan (p.scope.admits store user) p.query (candidates store user p.scope)).outcome =
        .ok () := by
  unfold run
  simp only
  cases (scan (p.scope.admits store user) p.query
    (candidates store user p.scope)).outcome <;> simp [Except.map]

/-- A search returns a result exactly if no evaluation on a document that the user sees
breaks off. -/
theorem run_returns_iff [Limits] {store : Store} (h : IsCoherent store) (user : Text) (p : Plan) :
    (∃ result, (run store user p).result = .ok result) ↔
      ∀ d ∈ store.documents, p.scope.admits store user d = true →
        breakdown? p.query d = none := by
  rw [run_returns_iff_outcome, scan_candidates h, scan_outcome_eq_ok_iff]
  simp only [List.mem_filter, and_imp]

end ContentQuery.Search

import ContentQuery.Proofs.Breakdown
import ContentQuery.Proofs.Sample
import ContentQuery.Proofs.Scan
import ContentQuery.Proofs.WrittenCondition

/-!
# ContentQuery.Proofs.Completion

Which searches come to an end with a result. A document that a condition cannot be compared with is
skipped, but a document on which the query breaks off ends the whole search without a result. An
index of too many digits is enough for that: a search with such a path has no result as soon as the
user sees a document that is an array.
-/

namespace ContentQuery

namespace Search

/-- A document has a truth value or is skipped exactly if the query does not break off on it. -/
theorem breakdown?_eq_none_iff [Limits] (query : Option Query) (d : Document) :
    breakdown? query d = none ↔ ∀ q, query = some q → ¬ q.BreaksOn d.content := by
  cases query with
  | none => simp [breakdown?, matchesQuery]
  | some q =>
      simp only [Option.some.injEq, forall_eq', ← matchesQuery_broken_iff, not_exists]
      rw [Option.eq_none_iff_forall_ne_some]
      simp only [ne_eq, breakdown?_eq_some_iff]

end Search

/-- A search on documents in memory has a result, if its query, its scope and its order can be read,
exactly if the query breaks off on none of the documents that the user sees. And a query has a truth
value for a payload, or one of its conditions is blamed, exactly if it does not break off on it. -/
theorem returns_iff_not_breaksOn [Limits] (documents : List Document)
    (shares : List (Text × List Text)) (request : SearchRequest)
    {query : Option Query} {scope : Scope} {sorting : Sorting}
    (hquery : Query.parse request.parts = .ok query)
    (hscope : Scope.parse request.scope = .ok scope)
    (hsorting : Sorting.parse request.sortField request.direction = .ok sorting) :
    let store := (MemoryStore.ofLists documents shares).toStore
    ((∃ report result, search store request = .ok report ∧ report.result = .ok result) ↔
      ∀ d ∈ store.documents, scope.admits store request.user d = true →
        ∀ q, query = some q → ¬ q.BreaksOn d.content) ∧
    ∀ (payload : Payload) (q : Query),
      ((∃ b, matchesQuery payload (some q) = .ok b) ∨
        ∃ condition cause, matchesQuery payload (some q) = .error (.failed condition cause)) ↔
      ¬ q.BreaksOn payload := by
  intro store
  constructor
  · have hplan : Search.plan request =
        .ok ⟨query, scope, sorting, .ofRequest request.page request.limit⟩ :=
      (Search.plan_eq_ok_iff request _).mpr ⟨hquery, hscope, hsorting, rfl⟩
    have hcoherent : Search.IsCoherent store := Search.isCoherent_toStore _
    have hreturns := Search.run_returns_iff hcoherent request.user
      ⟨query, scope, sorting, .ofRequest request.page request.limit⟩
    simp only [Search.breakdown?_eq_none_iff] at hreturns
    rw [← hreturns]
    simp only [Search.search_eq_ok_iff, hplan, Except.ok.injEq, exists_eq_left']
    constructor
    · rintro ⟨report, result, rfl, hresult⟩
      exact ⟨result, hresult⟩
    · rintro ⟨result, hresult⟩
      exact ⟨_, result, rfl, hresult⟩
  · intro payload q
    rw [← matchesQuery_broken_iff]
    cases matchesQuery payload (some q) with
    | ok b => simp
    | error e => cases e <;> simp

/-! ## Two searches -/

namespace Completion

/-- A run of zeros. -/
def zeros (n : Nat) : Text := List.replicate n '0'

/-- A condition on an item of an array, whose index is a run of zeros. -/
def indexed (n : Nat) : Condition :=
  ⟨zeros n, ⟨.equals, false⟩, .string "x", Condition.written (zeros n) ⟨.equals, false⟩ "x"⟩

/-- A search whose condition fails for an object that has no such field and is met by another. -/
theorem returns_iff_of_named :
    let request := Sample.request "alice" "all" "n equals x"
    Query.parse request.parts = .ok (some (Query.chain Sample.named [])) ∧
    Scope.parse request.scope = .ok .all ∧
    Sorting.parse request.sortField request.direction = .ok ⟨.created, .ascending⟩ ∧
    let store := (MemoryStore.ofLists Sample.pair []).toStore
    ((∃ report result, search store request = .ok report ∧ report.result = .ok result) ↔
      ∀ d ∈ store.documents, Scope.all.admits store "alice" d = true →
        ∀ q, some (Query.chain Sample.named []) = some q → ¬ q.BreaksOn d.content) :=
  ⟨rfl, rfl, rfl, (returns_iff_not_breaksOn Sample.pair []
    (Sample.request "alice" "all" "n equals x") rfl rfl rfl).1⟩

theorem components_zeros (n : Nat) : Path.components (zeros n) = [zeros n] := by
  induction n with
  | zero => rfl
  | succ n ih =>
      have hstep : Path.components ('0' :: zeros n) =
          Path.consFirst '0' (Path.components (zeros n)) := by
        rw [Path.components.eq_def]
        rfl
      rw [zeros, List.replicate_succ, ← zeros, hstep, ih]
      rfl

theorem isOverlong_zeros {n : Nat} (h : Path.maxIndexDigits < n) : Path.IsOverlong (zeros n) := by
  constructor
  · have hne : zeros n ≠ [] := by
      rw [zeros, ne_eq, List.replicate_eq_nil_iff]
      omega
    have hdigits : (zeros n).all CodePoint.isDigit = true := by
      rw [zeros, List.all_replicate]
      split <;> rfl
    simp [Decimal.isDigits, hne, hdigits]
  · rwa [zeros, List.length_replicate]

/-- A condition on an item at too long an index breaks off on an array. -/
theorem breaksOn_nil {n : Nat} (h : Path.maxIndexDigits < n) :
    (Query.chain (indexed n) []).BreaksOn (.json (.array [])) := by
  have hne : zeros n ≠ [] := by
    rw [zeros, ne_eq, List.replicate_eq_nil_iff]
    omega
  refine ⟨List.cons_ne_nil _ _, .inr ⟨.array [], [], indexed n, [], rfl, rfl, by simp, hne, ?_⟩⟩
  exact ⟨[], zeros n, [], [], components_zeros n, rfl, isOverlong_zeros h⟩

theorem parse_indexed {n : Nat} (h : 0 < n) :
    Query.parse (Sample.request "alice" "all" (indexed n).source).parts =
      .ok (some (Query.chain (indexed n) [])) := by
  have hzero : ∀ c ∈ zeros n, c = '0' := fun c hc => List.eq_of_mem_replicate hc
  have hne : zeros n ≠ [] := by
    rw [zeros, ne_eq, List.replicate_eq_nil_iff]
    omega
  have hname : Operation.ofName? (zeros n) = none := by
    rw [Option.eq_none_iff_forall_ne_some]
    rintro ⟨operator, insensitive⟩ hname
    have hhead := congrArg List.head? (Operation.eq_name_of_ofName? hname)
    rw [zeros, List.head?_replicate, if_neg (by omega)] at hhead
    cases operator <;> cases insensitive <;> exact absurd hhead (by decide)
  apply Query.parse_written hne
  · intro c hc
    rw [hzero c hc]
    rfl
  · rwa [Text.lower_eq_self fun c hc => by rw [hzero c hc]; rfl]
  · rfl
  · decide
  · intro c hc
    rw [← Option.mem_some_iff.mp hc]
    rfl
  · intro c hc
    rw [← Option.mem_some_iff.mp hc]
    rfl

end Completion

/-- Not every search whose query, scope and order can be read has a result: the one for an item at
an index of too many digits has none where the user sees an array. -/
theorem exists_search_without_result :
    ¬ ∀ (documents : List Document) (shares : List (Text × List Text)) (request : SearchRequest)
      (query : Option Query) (scope : Scope) (sorting : Sorting),
      Query.parse request.parts = .ok query → Scope.parse request.scope = .ok scope →
      Sorting.parse request.sortField request.direction = .ok sorting →
      ∃ report result, search (MemoryStore.ofLists documents shares).toStore request = .ok report ∧
        report.result = .ok result := by
  intro h
  let list := Sample.document "a" "alice" (.json (.array []))
  let documents := [list]
  let store := (MemoryStore.ofLists documents []).toStore
  have hlong : Path.maxIndexDigits < 4301 := by decide
  obtain ⟨report, result, hreport, hresult⟩ := h documents []
    (Sample.request "alice" "all" (Completion.indexed 4301).source) _ .all ⟨.created, .ascending⟩
    (Completion.parse_indexed (by decide)) rfl rfl
  obtain ⟨p, hplan, rfl⟩ := (Search.search_eq_ok_iff _ _ _).mp hreport
  obtain ⟨hquery, hscope, -, -⟩ := (Search.plan_eq_ok_iff _ p).mp hplan
  have hall : p.scope = .all := Except.ok.inj (hscope.symm.trans rfl)
  have hcoherent : Search.IsCoherent store := Search.isCoherent_toStore _
  have hnone := (Search.run_returns_iff hcoherent "alice" p).mp ⟨result, hresult⟩
    list List.mem_cons_self (by rw [hall]; rfl)
  rw [Search.breakdown?_eq_none_iff] at hnone
  refine hnone _ ?_ (Completion.breaksOn_nil hlong)
  exact Except.ok.inj (hquery.symm.trans (Completion.parse_indexed (by decide)))

end ContentQuery

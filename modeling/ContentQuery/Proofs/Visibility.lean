import ContentQuery.Proofs.PageTurning

/-!
# ContentQuery.Proofs.Visibility

The three scopes of a search. What a user sees as owned and what a user sees as shared are the two
halves of all that the user sees, and the listings keep the order of the listing of all.
-/

namespace ContentQuery

/-- Whether two requests are the same but for the scope and the page. -/
structure SearchRequest.Resembles (request other : SearchRequest) : Prop where
  user : request.user = other.user
  parts : request.parts = other.parts
  sortField : request.sortField = other.sortField
  direction : request.direction = other.direction

namespace Search

variable {store : Store} {request other : SearchRequest} {p : Plan}

/-! ## What a user sees -/

theorem seen_owned (store : Store) (user : Text) :
    seen store user .owned = (seen store user .all).filter fun d => d.owner = user := by
  unfold seen
  rw [List.filter_filter]
  apply List.filter_congr
  intro d _
  by_cases howner : d.owner = user <;> simp [Scope.admits, howner]

/-- A document that its own record lists its owner for is not seen as shared by the owner. -/
theorem seen_shared (store : Store) (user : Text) :
    seen store user .shared = (seen store user .all).filter fun d => d.owner ≠ user := by
  unfold seen
  rw [List.filter_filter]
  apply List.filter_congr
  intro d _
  by_cases howner : d.owner = user <;> simp [Scope.admits, howner]

/-! ## Listings in a scope -/

theorem plan_of_resembles (hplan : plan request = .ok p) (h : other.Resembles request)
    {scope : Scope} (hscope : Scope.parse other.scope = .ok scope) :
    plan other = .ok { p with scope, page := .ofRequest other.page other.limit } := by
  obtain ⟨hquery, -, hsorting, -⟩ := (plan_eq_ok_iff request p).mp hplan
  rw [plan_eq_ok_iff, h.parts, h.sortField, h.direction]
  exact ⟨hquery, hscope, hsorting, rfl⟩

/-- A scope that lets a user see a part of what another scope does has for its listing that part of
the other listing; and it has a listing if the other one does. -/
theorem lists_one_of_seen_eq [Limits] (hstore : IsCoherent store) (hplan : plan request = .ok p)
    (h : other.Resembles request) {scope : Scope} (hscope : Scope.parse other.scope = .ok scope)
    {keep : Document → Bool}
    (hseen : seen store request.user scope = (seen store request.user p.scope).filter keep)
    {listing : List Document} (hlists : Lists store request 1 listing) (part : List Document) :
    Lists store other 1 part ↔ part = listing.filter keep := by
  obtain ⟨hreturns, rfl⟩ := (lists_one_iff hstore hplan listing).mp hlists
  rw [lists_one_iff hstore (plan_of_resembles hplan h hscope), h.user]
  have harranged : arranged store request.user
      { p with scope, page := .ofRequest other.page other.limit } =
        (arranged store request.user p).filter keep := by
    rw [arranged, arranged, ← Sorting.sort_filter, List.filter_comm, ← hseen]
  rw [harranged]
  refine and_iff_right fun d hd => hreturns d ?_
  rw [hseen] at hd
  exact (List.mem_filter.mp hd).1

/-- The total that a search returns is the number of documents on all its pages. -/
theorem total_eq_length [Limits] (hstore : IsCoherent store) (hplan : plan request = .ok p)
    {listing : List Document} (hlists : Lists store request 1 listing) {result : SearchResult}
    (hresult : Returns store request result) : result.total = listing.length := by
  rw [((lists_one_iff hstore hplan listing).mp hlists).2,
    ((returns_iff hstore hplan result).mp hresult).2]

/-- Where a document is listed it is one of the store. -/
theorem mem_documents_of_lists [Limits] (hstore : IsCoherent store) (hplan : plan request = .ok p)
    {listing : List Document} (hlists : Lists store request 1 listing) {d : Document}
    (hd : d ∈ listing) : d ∈ store.documents := by
  rw [((lists_one_iff hstore hplan listing).mp hlists).2, arranged, Sorting.sort,
    List.mem_mergeSort] at hd
  exact (List.mem_filter.mp (List.mem_filter.mp hd).1).1

/-- A search that has pages is one that can be read. -/
theorem exists_plan_of_lists [Limits] {number : Nat} {listing : List Document}
    (hlists : Lists store request number listing) : ∃ p, plan request = .ok p := by
  have hread {result : SearchResult} (h : Returns store (request.turnTo number) result) :
      ∃ p, plan request = .ok p := by
    obtain ⟨report, hreport, -⟩ := h
    obtain ⟨p, hplan, -⟩ := (search_eq_ok_iff _ _ _).mp hreport
    obtain ⟨hquery, hscope, hsorting, -⟩ := (plan_eq_ok_iff _ p).mp hplan
    exact ⟨{ p with page := .ofRequest request.page request.limit },
      (plan_eq_ok_iff _ _).mpr ⟨hquery, hscope, hsorting, rfl⟩⟩
  cases hlists with
  | last hreturns _ => exact hread hreturns
  | next hreturns _ _ => exact hread hreturns

/-! ## The two halves -/

/-- Wherever the search for all that a user sees returns, the searches for what is owned and for
what is shared return too. Their complete listings have no document in common, they are the parts
of the listing of all that are and are not the user's own, in its order, and the totals add up.
Share records do not matter for the user's own documents, even if they list the user. -/
theorem scopes_partition [Limits] (documents : List Document) (shares : List (Text × List Text))
    {all owned shared : SearchRequest} (howned : owned.Resembles all)
    (hshared : shared.Resembles all) (hscope : Scope.parse all.scope = .ok .all)
    (hownedScope : Scope.parse owned.scope = .ok .owned)
    (hsharedScope : Scope.parse shared.scope = .ok .shared) :
    let store := (MemoryStore.ofLists documents shares).toStore
    ∀ listing, Lists store all 1 listing →
      (∃ own, Lists store owned 1 own) ∧ (∃ others, Lists store shared 1 others) ∧
      ∀ own others, Lists store owned 1 own → Lists store shared 1 others →
        (∀ d ∈ own, ∀ e ∈ others, d.id ≠ e.id) ∧
        own = listing.filter (fun d => d.owner = all.user) ∧
        others = listing.filter (fun d => d.owner ≠ all.user) ∧
        ∀ result ownResult othersResult, Returns store all result →
          Returns store owned ownResult → Returns store shared othersResult →
          result.total = ownResult.total + othersResult.total := by
  intro store listing hlists
  have hstore : IsCoherent store := isCoherent_toStore _
  obtain ⟨p, hplan⟩ := exists_plan_of_lists hlists
  have hall : p.scope = .all :=
    Except.ok.inj (((plan_eq_ok_iff all p).mp hplan).2.1.symm.trans hscope)
  have hownIff := lists_one_of_seen_eq hstore hplan howned hownedScope
    (by rw [hall]; exact seen_owned store all.user) hlists
  have hothersIff := lists_one_of_seen_eq hstore hplan hshared hsharedScope
    (by rw [hall]; exact seen_shared store all.user) hlists
  refine ⟨⟨_, (hownIff _).mpr rfl⟩, ⟨_, (hothersIff _).mpr rfl⟩, ?_⟩
  intro own others hown hothers
  have hownEq := (hownIff own).mp hown
  have hothersEq := (hothersIff others).mp hothers
  refine ⟨?_, hownEq, hothersEq, ?_⟩
  · intro d hd e he hid
    rw [hownEq, List.mem_filter, decide_eq_true_eq] at hd
    rw [hothersEq, List.mem_filter, decide_eq_true_eq] at he
    have hids : (store.documents.map (·.id)).Nodup := by
      change ((MemoryStore.ofLists documents shares).documents.map (·.id)).Nodup
      rw [documents_ofLists]
      exact nodup_ids_keptOf documents
    have heq : d = e := List.inj_on_of_nodup_map hids
      (mem_documents_of_lists hstore hplan hlists hd.1)
      (mem_documents_of_lists hstore hplan hlists he.1) hid
    exact he.2 (heq ▸ hd.2)
  · intro result ownResult othersResult hresult hownResult hothersResult
    have hnegation : (fun d : Document => decide (d.owner ≠ all.user)) =
        fun d => !decide (d.owner = all.user) := by
      funext d
      exact decide_not
    rw [total_eq_length hstore hplan hlists hresult,
      total_eq_length hstore (plan_of_resembles hplan howned hownedScope) hown hownResult,
      total_eq_length hstore (plan_of_resembles hplan hshared hsharedScope) hothers hothersResult,
      hownEq, hothersEq, hnegation]
    exact List.length_eq_length_filter_add _

/-- Two documents of one moment: one that its own record lists its owner for, and one of another
user that is shared with the owner of the first. -/
def selfShared : List Document :=
  [Sample.document "a" "alice" (Sample.object "n" "x"),
    Sample.document "b" "bob" (Sample.object "n" "x")]

/-- The document that lists its owner is owned and not shared. -/
theorem scopes_partition_of_self_shared :
    let store :=
      (MemoryStore.ofLists selfShared [("a", ["alice"]), ("b", ["alice"])]).toStore
    let request scope := Sample.request "alice" scope "n equals x"
    Lists store (request "all") 1 selfShared ∧
      (∀ own, Lists store (request "owned") 1 own → own.map (·.id) = ["a"]) ∧
      (∀ others, Lists store (request "shared") 1 others → others.map (·.id) = ["b"]) := by
  intro store request
  have hstore : IsCoherent store := isCoherent_toStore _
  let plan : Plan :=
    ⟨some (Query.chain Sample.named []), .all, ⟨.created, .ascending⟩, .ofRequest 1 20⟩
  have hall : Lists store (request "all") 1 selfShared := by
    refine (lists_one_iff (p := plan) hstore rfl selfShared).mpr ⟨?_, ?_⟩
    · intro d hd
      have hmem : d ∈ selfShared := (List.mem_filter.mp hd).1
      rw [selfShared, List.mem_cons, List.mem_singleton] at hmem
      rcases hmem with rfl | rfl <;> rfl
    · have harranges : plan.sorting.Arranges selfShared selfShared :=
        ⟨by decide, fun _ => rfl⟩
      exact harranges.unique (Sorting.arranges_sort _ _)
  have hresembles (scope : Text) : (request scope).Resembles (request "all") :=
    ⟨rfl, rfl, rfl, rfl⟩
  obtain ⟨⟨own, hown⟩, ⟨others, hothers⟩, h⟩ :=
    scopes_partition selfShared [("a", ["alice"]), ("b", ["alice"])] (hresembles "owned")
      (hresembles "shared") rfl rfl rfl selfShared hall
  refine ⟨hall, ?_, ?_⟩
  · intro own' hown'
    rw [(h own' others hown' hothers).2.1]
    rfl
  · intro others' hothers'
    rw [(h own others' hown hothers').2.2.1]
    rfl

end Search

end ContentQuery

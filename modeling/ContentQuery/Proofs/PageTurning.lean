import ContentQuery.Proofs.Reference

/-!
# ContentQuery.Proofs.PageTurning

Going through all pages of a search. One page after the other, up to the first empty one, they bring
all matches in order, each once; how many documents a page holds plays no part.
-/

namespace ContentQuery

/-- The request for another page of the same listing. -/
def SearchRequest.turnTo (request : SearchRequest) (number : Nat) : SearchRequest :=
  { request with page := number }

namespace Search

/-- Whether a search comes to the end of its scan with this result. -/
def Returns [Limits] (store : Store) (request : SearchRequest) (result : SearchResult) : Prop :=
  ∃ report, search store request = .ok report ∧ report.result = .ok result

/-- Turning the pages of a search from a number on, up to the first empty page, brings these
documents. -/
inductive Lists [Limits] (store : Store) (request : SearchRequest) : Nat → List Document → Prop
  | last {number : Nat} {result : SearchResult} :
      Returns store (request.turnTo number) result → result.documents = [] →
      Lists store request number []
  | next {number : Nat} {result : SearchResult} {later : List Document} :
      Returns store (request.turnTo number) result → result.documents ≠ [] →
      Lists store request (number + 1) later →
      Lists store request number (result.documents ++ later)

/-- All matches of a search, in the order asked for. -/
def arranged [Limits] (store : Store) (user : Text) (p : Plan) : List Document :=
  p.sorting.sort ((seen store user p.scope).filter (passes p.query))

variable {store : Store} {request : SearchRequest} {p : Plan}

/-! ## One page -/

theorem plan_turnTo (hplan : plan request = .ok p) (number : Nat) :
    plan (request.turnTo number) = .ok { p with page := .ofRequest number request.limit } := by
  obtain ⟨hquery, hscope, hsorting, -⟩ := (plan_eq_ok_iff request p).mp hplan
  exact (plan_eq_ok_iff _ _).mpr ⟨hquery, hscope, hsorting, rfl⟩

theorem limit_of_plan (hplan : plan request = .ok p) :
    p.page.limit = Page.effectiveLimit request.limit := by
  rw [((plan_eq_ok_iff request p).mp hplan).2.2.2]
  rfl

/-- What a search that has been read returns, if it returns. -/
theorem returns_iff [Limits] (hstore : IsCoherent store) (hplan : plan request = .ok p)
    (result : SearchResult) :
    Returns store request result ↔
      (∀ d ∈ seen store request.user p.scope, breakdown? p.query d = none) ∧
        result = ⟨p.page.slice (arranged store request.user p),
          (arranged store request.user p).length, p.page⟩ := by
  have hreturns := exists_result_iff hstore request.user p
  have hlength : (arranged store request.user p).length =
      ((seen store request.user p.scope).filter (passes p.query)).length :=
    List.length_mergeSort _
  simp only [Returns, search, hplan, Except.map, Except.ok.injEq, exists_eq_left']
  rw [hlength, ← hreturns]
  constructor
  · intro h
    exact ⟨⟨result, h⟩, (run_eq_of_ok hstore h).2⟩
  · rintro ⟨⟨result', h⟩, rfl⟩
    rw [h, (run_eq_of_ok hstore h).2]
    rfl

/-- Whether a search returns is not up to the page. -/
theorem returns_turnTo_iff [Limits] (hstore : IsCoherent store) (hplan : plan request = .ok p)
    (k : Nat) (result : SearchResult) :
    Returns store (request.turnTo (k + 1)) result ↔
      (∀ d ∈ seen store request.user p.scope, breakdown? p.query d = none) ∧
        result = ⟨((arranged store request.user p).drop (k * p.page.limit)).take p.page.limit,
          (arranged store request.user p).length, .ofRequest (k + 1 : Nat) request.limit⟩ := by
  have hnumber : Page.effectiveNumber ((k + 1 : Nat) : Int) - 1 = k := by
    rw [Page.effectiveNumber_succ, Nat.add_sub_cancel]
  rw [returns_iff hstore (plan_turnTo hplan (k + 1)), limit_of_plan hplan]
  simp only [Page.slice, Page.offset, Page.ofRequest, hnumber]
  rfl

/-! ## All pages -/

/-- Turning the pages leaves out and repeats nothing. -/
theorem Lists.eq_drop [Limits] (hstore : IsCoherent store) (hplan : plan request = .ok p)
    {number : Nat} {documents : List Document} (h : Lists store request number documents) {k : Nat}
    (hnumber : number = k + 1) :
    documents = (arranged store request.user p).drop (k * p.page.limit) := by
  have hlimit := p.page.limit_pos
  induction h generalizing k with
  | last hreturns hempty =>
      subst hnumber
      rw [((returns_turnTo_iff hstore hplan k _).mp hreturns).2, List.take_eq_nil_iff] at hempty
      exact (hempty.resolve_left (by omega)).symm
  | next hreturns hne hlater ih =>
      subst hnumber
      rw [((returns_turnTo_iff hstore hplan k _).mp hreturns).2, ih rfl, Nat.succ_mul,
        ← List.drop_drop]
      exact List.take_append_drop _ _

/-- A search that returns has a last page. -/
theorem exists_lists [Limits] (hstore : IsCoherent store) (hplan : plan request = .ok p)
    (hreturns : ∀ d ∈ seen store request.user p.scope, breakdown? p.query d = none) (k : Nat) :
    ∃ documents, Lists store request (k + 1) documents := by
  have hlimit := p.page.limit_pos
  obtain ⟨left, hleft⟩ : ∃ left, (arranged store request.user p).length - k * p.page.limit = left :=
    ⟨_, rfl⟩
  -- Each page that is not empty leaves fewer documents for the later ones.
  induction left using Nat.strong_induction_on generalizing k with
  | _ left ih =>
      have hpage := (returns_turnTo_iff hstore hplan k _).mpr ⟨hreturns, rfl⟩
      by_cases hempty : ((arranged store request.user p).drop (k * p.page.limit)).take
          p.page.limit = []
      · exact ⟨[], .last hpage hempty⟩
      · have hrest : 0 < left := by
          rw [List.take_eq_nil_iff, List.drop_eq_nil_iff] at hempty
          omega
        have hnext : (k + 1) * p.page.limit = k * p.page.limit + p.page.limit := Nat.succ_mul _ _
        obtain ⟨later, hlater⟩ := ih _ (by omega) (k + 1) rfl
        exact ⟨_, .next hpage hempty hlater⟩

/-- The pages of a search bring all its matches in order, and there are pages exactly if the search
returns. -/
theorem lists_one_iff [Limits] (hstore : IsCoherent store) (hplan : plan request = .ok p)
    (documents : List Document) :
    Lists store request 1 documents ↔
      (∀ d ∈ seen store request.user p.scope, breakdown? p.query d = none) ∧
        documents = arranged store request.user p := by
  have hall {documents : List Document} (h : Lists store request 1 documents) :
      documents = arranged store request.user p := by
    have hdrop := h.eq_drop hstore hplan (k := 0) rfl
    rwa [Nat.zero_mul, List.drop_zero] at hdrop
  constructor
  · intro h
    refine ⟨?_, hall h⟩
    cases h with
    | last hreturns _ => exact ((returns_turnTo_iff hstore hplan 0 _).mp hreturns).1
    | next hreturns _ _ => exact ((returns_turnTo_iff hstore hplan 0 _).mp hreturns).1
  · rintro ⟨hreturns, rfl⟩
    obtain ⟨documents, h⟩ := exists_lists hstore hplan hreturns 0
    rwa [← hall h]

end Search

end ContentQuery

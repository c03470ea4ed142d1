import ContentQuery.Export
import ContentQuery.Proofs.Reference
import Mathlib.Algebra.Order.Floor.Div

/-!
# ContentQuery.Proofs.Pages

The pages of a listing. Whatever limit is asked for, the pages cut the listing into stretches of one
length, so that one after the other they bring all of it; behind the last one pages are empty. The
page that a search reports has its documents in the places of the listing that its heading names.
-/

namespace ContentQuery

namespace Page

variable {α : Type} (items : List α) (limit : Int)

/-- The number of pages that hold a number of items. -/
def pageCount (count : Nat) (limit : Int) : Nat := count ⌈/⌉ effectiveLimit limit

theorem effectiveLimit_pos : 0 < effectiveLimit limit := (ofRequest 1 limit).limit_pos

theorem pageCount_le_iff (count number : Nat) :
    pageCount count limit ≤ number ↔ count ≤ number * effectiveLimit limit := by
  rw [pageCount, ceilDiv_le_iff_le_mul (effectiveLimit_pos limit), Nat.mul_comm]

/-! ## One page -/

theorem paginate_succ (k : Nat) : paginate items (k + 1 : Nat) limit =
    (items.drop (k * effectiveLimit limit)).take (effectiveLimit limit) := by
  simp only [paginate, slice, offset, ofRequest, effectiveNumber_succ, Nat.add_sub_cancel]

/-- Below the first page there is only the first page. -/
theorem paginate_of_lt_one {page : Int} (h : page < 1) :
    paginate items page limit = paginate items 1 limit := by
  have hnumber : effectiveNumber page = effectiveNumber 1 := if_pos (by omega)
  rw [paginate, paginate, ofRequest]
  simp only [hnumber]
  rfl

/-- A page that another one follows is full. -/
theorem length_paginate {k : Nat} (h : k + 1 < pageCount items.length limit) :
    (paginate items (k + 1 : Nat) limit).length = effectiveLimit limit := by
  have hnext : (k + 1) * effectiveLimit limit < items.length := by
    rwa [← Nat.not_le, ← pageCount_le_iff, Nat.not_le]
  rw [Nat.succ_mul] at hnext
  rw [paginate_succ, List.length_take, List.length_drop]
  omega

/-- Behind the last page pages are empty. -/
theorem paginate_eq_nil {k : Nat} (h : pageCount items.length limit ≤ k) :
    paginate items (k + 1 : Nat) limit = [] := by
  rw [pageCount_le_iff] at h
  rw [paginate_succ, List.drop_eq_nil_of_le h, List.take_nil]

/-! ## All pages -/

/-- Pages bring items in their order, from the first one on. -/
theorem flatMap_paginate (number : Nat) :
    (List.range number).flatMap (fun k => paginate items (k + 1 : Nat) limit) =
      items.take (number * effectiveLimit limit) := by
  induction number with
  | zero => simp
  | succ number ih =>
      rw [List.range_succ, List.flatMap_append, ih, List.flatMap_singleton, paginate_succ,
        Nat.succ_mul, List.take_add]

/-- All pages together bring all items. -/
theorem flatMap_paginate_pageCount :
    (List.range (pageCount items.length limit)).flatMap
      (fun k => paginate items (k + 1 : Nat) limit) = items := by
  rw [flatMap_paginate]
  exact List.take_of_length_le ((pageCount_le_iff limit _ _).mp (Nat.le_refl _))

end Page

/-! ## The page of a search -/

namespace SearchResult

/-- The heading of a page that is cut out of a listing names places of the listing, and these hold
the documents of the page. -/
theorem places_of_slice {result : SearchResult} {listing : List Document}
    (hdocuments : result.documents = result.page.slice listing)
    (htotal : result.total = listing.length) (hne : result.documents ≠ []) :
    1 ≤ result.first ∧ result.first ≤ result.last ∧ result.last ≤ result.total ∧
      ∀ k, 1 ≤ k → k ≤ result.documents.length →
        result.documents[k - 1]? = listing[result.first + k - 1 - 1]? := by
  have hlength := congrArg List.length hdocuments
  rw [Page.slice, List.length_take, List.length_drop] at hlength
  have hpos := List.length_pos_iff.mpr hne
  unfold first last
  refine ⟨by omega, by omega, by omega, fun k hk hlast => ?_⟩
  rw [hdocuments, Page.slice, List.getElem?_take_of_lt (by omega), List.getElem?_drop]
  congr 1
  omega

end SearchResult

namespace Search

/-- All documents that a search lists, in order, whichever page of them it returns. -/
def listing [Limits] (store : Store) (user : Text) (p : Plan) : List Document :=
  p.sorting.sort ((visible store user p.scope).filter (passes p.query))

/-- A search that returns reports a page of its listing and the length of the listing. -/
theorem result_eq_of_search [Limits] {store : Store} {request : SearchRequest} {report : Report}
    {result : SearchResult} (hreport : search store request = .ok report)
    (hresult : report.result = .ok result) :
    ∃ p, plan request = .ok p ∧
      result = ⟨(Page.ofRequest request.page request.limit).slice (listing store request.user p),
        (listing store request.user p).length, .ofRequest request.page request.limit⟩ := by
  obtain ⟨p, hplan, rfl⟩ := (search_eq_ok_iff store request report).mp hreport
  refine ⟨p, hplan, ?_⟩
  rw [(run_eq_of_returned hresult).2, ((plan_eq_ok_iff request p).mp hplan).2.2.2, listing]
  simp only [Sorting.sort, List.length_mergeSort]

/-- Whatever limit is asked for, the pages from the first one up to the last one bring the documents
of a listing, each page but the last is full, the pages behind are empty, and below the first page
there is only the first page. A search that returns cuts the page asked for out of its listing, and
cutting by the page that it reports brings the same; if there are documents on the page, its heading
names places of the listing, and in these the documents stand. -/
theorem pages_partition [Limits] :
    (∀ (documents : List Document) (limit : Int),
      let size := Page.effectiveLimit limit
      let pages := documents.length ⌈/⌉ size
      (List.range pages).flatMap (fun k => Page.paginate documents (k + 1 : Nat) limit) =
        documents ∧
      (∀ page : Int, 1 ≤ page → page < pages →
        (Page.paginate documents page limit).length = size) ∧
      (∀ page : Int, pages < page → Page.paginate documents page limit = []) ∧
      ∀ page : Int, page < 1 →
        Page.paginate documents page limit = Page.paginate documents 1 limit) ∧
    ∀ (store : Store) (request : SearchRequest) (report : Report) (result : SearchResult),
      search store request = .ok report → report.result = .ok result →
      ∃ p, plan request = .ok p ∧
        let listing := listing store request.user p
        result.documents = Page.paginate listing request.page request.limit ∧
        result.documents = Page.paginate listing result.page.number result.page.limit ∧
        result.total = listing.length ∧
        (result.documents ≠ [] →
          1 ≤ result.first ∧ result.first ≤ result.last ∧ result.last ≤ result.total ∧
          ∀ k, 1 ≤ k → k ≤ result.documents.length →
            result.documents[k - 1]? = listing[result.first + k - 1 - 1]?) := by
  constructor
  · intro documents limit size pages
    refine ⟨Page.flatMap_paginate_pageCount documents limit, ?_, ?_,
      fun page => Page.paginate_of_lt_one documents limit⟩
    · intro page hfirst hlast
      obtain ⟨k, rfl⟩ : ∃ k : Nat, page = (k + 1 : Nat) := ⟨(page - 1).toNat, by omega⟩
      exact Page.length_paginate documents limit (Int.ofNat_lt.mp hlast)
    · intro page hlast
      obtain ⟨k, rfl⟩ : ∃ k : Nat, page = (k + 1 : Nat) := ⟨(page - 1).toNat, by omega⟩
      exact Page.paginate_eq_nil documents limit (Nat.lt_succ_iff.mp (Int.ofNat_lt.mp hlast))
  · intro store request report result hreport hresult
    obtain ⟨p, hplan, rfl⟩ := result_eq_of_search hreport hresult
    exact ⟨p, hplan, rfl, (Page.paginate_number_limit _ _).symm, rfl,
      SearchResult.places_of_slice rfl rfl⟩

/-- Three documents of one timestamp. -/
def threeTied : List Document :=
  [Sample.document "c" "alice" (Sample.object "n" "x"),
    Sample.document "a" "alice" (Sample.object "n" "x"),
    Sample.document "b" "alice" (Sample.object "n" "x")]

/-- The request for the second page of them, with two documents on a page. -/
def secondPage : SearchRequest :=
  { Sample.request "alice" "all" "n equals x" with page := 2, limit := 2 }

/-- Two pages for three documents: the first one is full, the second one has the third document,
whose place the heading names, and the third page is empty. -/
theorem pages_partition_of_three :
    (Page.paginate threeTied 1 2).length = 2 ∧ Page.paginate threeTied 3 2 = [] ∧
    Page.paginate threeTied (-4) 2 = Page.paginate threeTied 1 2 ∧
    ∃ result, search (MemoryStore.ofLists threeTied []).toStore secondPage = .ok ⟨[], .ok result⟩ ∧
      result.documents = [Sample.document "b" "alice" (Sample.object "n" "x")] ∧
      result.first = 3 ∧ result.last = 3 ∧ 1 ≤ result.first ∧ result.first ≤ result.last ∧
      result.last ≤ result.total := by
  obtain ⟨hpages, hsearch⟩ := pages_partition
  obtain ⟨-, hfull, hempty, hfirst⟩ := hpages threeTied 2
  let store := (MemoryStore.ofLists threeTied []).toStore
  let plan : Plan :=
    ⟨some (Query.chain Sample.named []), .all, ⟨.created, .ascending⟩, .ofRequest 2 2⟩
  let result : SearchResult :=
    ⟨[Sample.document "b" "alice" (Sample.object "n" "x")], 3, .ofRequest 2 2⟩
  have hreport : search store secondPage = .ok ⟨[], .ok result⟩ := by
    have hscan : scan (plan.scope.admits store "alice") plan.query
        (candidates store "alice" plan.scope) = ⟨threeTied, [], .ok ()⟩ := rfl
    have hsort : plan.sorting.sort threeTied = threeTied :=
      List.mergeSort_of_pairwise (by decide)
    refine (search_eq_ok_iff _ _ _).mpr ⟨plan, rfl, ?_⟩
    change _ = run store "alice" plan
    rw [run, hscan]
    simp only [hsort]
    rfl
  obtain ⟨p, -, -, -, -, hplaces⟩ := hsearch store secondPage _ result hreport rfl
  obtain ⟨hone, hordered, hlast, -⟩ := hplaces (List.cons_ne_nil _ _)
  exact ⟨hfull 1 (by decide) (by decide), hempty 3 (by decide), hfirst (-4) (by decide), result,
    hreport, rfl, rfl, rfl, hone, hordered, hlast⟩

end Search

end ContentQuery

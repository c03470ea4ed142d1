import ContentQuery.Listing
import Mathlib.Data.List.Basic

/-!
# ContentQuery.Proofs.Arrangement

Sorting brings documents into the one order in which timestamps run as asked and documents of equal
timestamps keep their places. Asking for a page that has been brought into bounds asks for that
page.
-/

namespace ContentQuery

namespace Sorting

variable {sorting : Sorting}

/-! ## Before and after -/

/-- The order of two documents after each other carries over. -/
theorem allows_trans (sorting : Sorting) (a b c : Document) (hab : sorting.allows a b = true)
    (hbc : sorting.allows b c = true) : sorting.allows a c = true := by
  unfold allows at *
  cases hdir : sorting.direction <;> simp only [hdir, decide_eq_true_eq] at * <;> omega

/-- Of two documents, one may stand before the other. -/
theorem allows_total (sorting : Sorting) (a b : Document) :
    (sorting.allows a b || sorting.allows b a) = true := by
  unfold allows
  cases sorting.direction <;> simp only [Bool.or_eq_true, decide_eq_true_eq] <;> omega

/-- Documents with the same timestamp may stand in either order. -/
theorem allows_of_key_eq {a b : Document} (h : sorting.key a = sorting.key b) :
    sorting.allows a b = true := by
  unfold allows
  cases sorting.direction <;> simp only [decide_eq_true_eq] <;> omega

/-- Documents that may stand in either order have the same timestamp. -/
theorem key_eq_of_allows {a b : Document} (hab : sorting.allows a b = true)
    (hba : sorting.allows b a = true) : sorting.key a = sorting.key b := by
  unfold allows at *
  cases hdir : sorting.direction <;> simp only [hdir, decide_eq_true_eq] at * <;> omega

/-! ## Stable order -/

/-- The documents with a timestamp, in the order in which they stand. -/
def tied (sorting : Sorting) (micros : Nat) (documents : List Document) : List Document :=
  documents.filter fun d => sorting.key d = micros

/-- Whether documents are the given ones in order, with equal timestamps in the order given. -/
structure Arranges (sorting : Sorting) (given arranged : List Document) : Prop where
  ordered : arranged.Pairwise fun a b => sorting.allows a b = true
  stable : ∀ micros, sorting.tied micros arranged = sorting.tied micros given

/-- Sorting arranges. -/
theorem arranges_sort (sorting : Sorting) (documents : List Document) :
    sorting.Arranges documents (sorting.sort documents) where
  ordered := List.pairwise_mergeSort sorting.allows_trans sorting.allows_total documents
  stable := by
    intro micros
    have hties : (sorting.tied micros documents).Pairwise
        fun a b => sorting.allows a b = true := by
      rw [List.pairwise_iff_forall_sublist]
      intro a b hab
      have ha : a ∈ sorting.tied micros documents := hab.subset (by simp)
      have hb : b ∈ sorting.tied micros documents := hab.subset (by simp)
      simp only [tied, List.mem_filter, decide_eq_true_eq] at ha hb
      exact allows_of_key_eq (ha.2.trans hb.2.symm)
    have hsub : (sorting.tied micros documents).Sublist (sorting.sort documents) :=
      List.sublist_mergeSort sorting.allows_trans sorting.allows_total hties List.filter_sublist
    have hagain : (sorting.tied micros documents).Sublist
        (sorting.tied micros (sorting.sort documents)) := by
      have hfilter := hsub.filter fun d => sorting.key d = micros
      simpa only [tied, List.filter_filter, Bool.and_self] using hfilter
    have hperm : (sorting.tied micros (sorting.sort documents)).Perm
        (sorting.tied micros documents) := (List.mergeSort_perm documents _).filter _
    exact (hagain.eq_of_length hperm.length_eq.symm).symm

/-- Arranging documents leaves out none and adds none. -/
theorem Arranges.mem_iff {given arranged : List Document} (h : sorting.Arranges given arranged)
    (d : Document) : d ∈ arranged ↔ d ∈ given := by
  have hties := h.stable (sorting.key d)
  have hmem (documents : List Document) :
      d ∈ documents ↔ d ∈ sorting.tied (sorting.key d) documents := by
    simp [tied]
  rw [hmem arranged, hties, ← hmem given]

/-- The order of documents is determined. -/
theorem Arranges.unique {given a b : List Document} (ha : sorting.Arranges given a)
    (hb : sorting.Arranges given b) : a = b := by
  induction a generalizing given b with
  | nil =>
      symm
      rw [List.eq_nil_iff_forall_not_mem]
      intro d hd
      rw [hb.mem_iff, ← ha.mem_iff] at hd
      exact List.not_mem_nil hd
  | cons first rest ih =>
      have hmem (d : Document) : d ∈ first :: rest ↔ d ∈ b := by rw [ha.mem_iff, hb.mem_iff]
      cases b with
      | nil => exact absurd ((hmem first).mp List.mem_cons_self) List.not_mem_nil
      | cons first' rest' =>
          obtain ⟨hbefore, hrest⟩ := List.pairwise_cons.mp ha.ordered
          obtain ⟨hbefore', hrest'⟩ := List.pairwise_cons.mp hb.ordered
          have hkey : sorting.key first = sorting.key first' := by
            apply key_eq_of_allows
            · rcases List.mem_cons.mp ((hmem first').mpr List.mem_cons_self) with heq | hlater
              · exact allows_of_key_eq (by rw [heq])
              · exact hbefore first' hlater
            · rcases List.mem_cons.mp ((hmem first).mp List.mem_cons_self) with heq | hlater
              · exact allows_of_key_eq (by rw [heq])
              · exact hbefore' first hlater
          have hties (micros : Nat) :
              sorting.tied micros (first :: rest) = sorting.tied micros (first' :: rest') :=
            (ha.stable micros).trans (hb.stable micros).symm
          have hfirst : first = first' := by
            have hhead := congrArg List.head? (hties (sorting.key first))
            simpa [tied, hkey] using hhead
          subst hfirst
          have hlater (micros : Nat) : sorting.tied micros rest = sorting.tied micros rest' := by
            have htail := hties micros
            unfold tied at htail ⊢
            rw [List.filter_cons, List.filter_cons] at htail
            split at htail
            · exact (List.cons.inj htail).2
            · exact htail
          have hself : sorting.Arranges rest rest := ⟨hrest, fun _ => rfl⟩
          rw [ih hself ⟨hrest', fun micros => (hlater micros).symm⟩]

/-- What is taken out of documents in order stands in order. -/
theorem Arranges.filter {given arranged : List Document} (h : sorting.Arranges given arranged)
    (keep : Document → Bool) : sorting.Arranges (given.filter keep) (arranged.filter keep) where
  ordered := h.ordered.filter keep
  stable := by
    intro micros
    unfold tied
    rw [List.filter_comm, List.filter_comm _ _ given]
    exact congrArg (List.filter keep) (h.stable micros)

/-- Taking documents out and sorting commute. -/
theorem sort_filter (sorting : Sorting) (keep : Document → Bool) (documents : List Document) :
    sorting.sort (documents.filter keep) = (sorting.sort documents).filter keep :=
  (arranges_sort sorting _).unique ((arranges_sort sorting documents).filter keep)

end Sorting

namespace Page

theorem effectiveNumber_succ (k : Nat) : effectiveNumber ((k + 1 : Nat) : Int) = k + 1 := by
  unfold effectiveNumber
  split <;> omega

/-- Bringing a page into bounds twice changes nothing more. -/
theorem ofRequest_number_limit (page : Page) : ofRequest page.number page.limit = page := by
  obtain ⟨number, limit, hnumber, hlimit, hle⟩ := page
  have heffective : effectiveNumber (number : Int) = number := by
    unfold effectiveNumber
    split <;> omega
  have hlimits : effectiveLimit (limit : Int) = limit := by
    unfold effectiveLimit defaultLimit maxLimit
    split <;> omega
  simp only [ofRequest, heffective, hlimits]

theorem paginate_number_limit {α : Type} (items : List α) (page : Page) :
    paginate items page.number page.limit = page.slice items := by
  rw [paginate, ofRequest_number_limit]

end Page

end ContentQuery

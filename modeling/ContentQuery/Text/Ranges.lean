/-!
# ContentQuery.Text.Ranges

Sets of code points as ascending tables of closed intervals, the form in which the tables of the
Unicode standard are kept here.
-/

namespace ContentQuery

/-- Ascending closed intervals of code points, each given by its ends. -/
abbrev Ranges := List (Nat × Nat)

namespace Ranges

/-- Whether a number lies in one of the intervals. The table ascends, so the search stops at the
first interval that begins beyond the number. -/
def has : Ranges → Nat → Bool
  | [], _ => false
  | (first, last) :: rest, n => first ≤ n && (n ≤ last || has rest n)

/-- Each interval is well formed and begins beyond the one before it. -/
def Ascending : Ranges → Prop
  | [] => True
  | [(first, last)] => first ≤ last
  | (first, last) :: (next, bound) :: rest =>
    first ≤ last ∧ last < next ∧ Ascending ((next, bound) :: rest)

/-- A number in the table lies in one of its intervals. -/
theorem exists_of_has {table : Ranges} {n : Nat} (h : table.has n = true) :
    ∃ range ∈ table, range.1 ≤ n ∧ n ≤ range.2 := by
  induction table with
  | nil => simp [has] at h
  | cons range rest ih =>
    obtain ⟨first, last⟩ := range
    simp only [has, Bool.and_eq_true, Bool.or_eq_true, decide_eq_true_eq] at h
    obtain ⟨hfirst, hlast | hrest⟩ := h
    · exact ⟨(first, last), by simp, hfirst, hlast⟩
    · obtain ⟨range, hmem, hrange⟩ := ih hrest
      exact ⟨range, List.mem_cons_of_mem _ hmem, hrange⟩

end Ranges

end ContentQuery

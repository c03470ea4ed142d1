import ContentQuery.Text.Blank
import Mathlib.Data.List.TakeWhile

/-!
# ContentQuery.Proofs.Runs

Maximal runs of characters of one kind, as readers cut them off at the front of a text, and texts
that have no white space at their ends.
-/

namespace ContentQuery.Text

variable {p : CodePoint → Bool} {run rest : Text}

/-- A run ends where a character of another kind follows. -/
theorem takeWhile_append_of_stop (hrun : ∀ c ∈ run, p c = true)
    (hrest : ∀ c ∈ rest.head?, p c = false) : (run ++ rest).takeWhile p = run := by
  have hnone : rest.takeWhile p = [] := by
    cases rest with
    | nil => rfl
    | cons c rest => rw [List.takeWhile_cons_of_neg (by rw [hrest c rfl]; decide)]
  rw [List.takeWhile_append_of_pos hrun, hnone, List.append_nil]

/-- What follows a run is left. -/
theorem dropWhile_append_of_stop (hrun : ∀ c ∈ run, p c = true)
    (hrest : ∀ c ∈ rest.head?, p c = false) : (run ++ rest).dropWhile p = rest := by
  rw [List.dropWhile_append_of_pos hrun]
  cases rest with
  | nil => rfl
  | cons c rest => rw [List.dropWhile_cons_of_neg (by rw [hrest c rfl]; decide)]

/-- What is left after a run goes on with a character of another kind. -/
theorem head?_dropWhile_eq_false (p : CodePoint → Bool) (s : Text) :
    ∀ c ∈ (s.dropWhile p).head?, p c = false := by
  intro c hc
  have hhead := List.head?_dropWhile_not p s
  rw [Option.mem_def.mp hc] at hhead
  simpa using hhead

/-! ## Trimming -/

/-- A text that begins with ink has no white space in front. -/
theorem trimLeft_cons {c : CodePoint} (h : c.isInk = true) (rest : Text) :
    trimLeft (c :: rest) = c :: rest := by
  unfold trimLeft
  exact List.dropWhile_cons_of_neg (by simpa [CodePoint.isInk] using h)

/-- A text that ends with ink has no white space behind. -/
theorem trimRight_concat {c : CodePoint} (h : c.isInk = true) (front : Text) :
    trimRight (front ++ [c]) = front ++ [c] := by
  have hc : ¬ c.isBlank = true := by simpa [CodePoint.isInk] using h
  simp [trimRight, hc]

/-- A text whose two ends are ink is not changed by trimming. -/
theorem trim_eq_self {s : Text} (hfirst : ∀ c ∈ s.head?, c.isInk = true)
    (hlast : ∀ c ∈ s.getLast?, c.isInk = true) : s.trim = s := by
  cases s with
  | nil => rfl
  | cons first rest =>
      rw [trim, trimLeft_cons (hfirst first rfl)]
      have hne : first :: rest ≠ [] := List.cons_ne_nil first rest
      have hsplit : first :: rest = (first :: rest).dropLast ++ [(first :: rest).getLast hne] :=
        (List.dropLast_concat_getLast hne).symm
      rw [hsplit]
      apply trimRight_concat
      exact hlast _ (List.getLast?_eq_some_getLast hne)

end ContentQuery.Text

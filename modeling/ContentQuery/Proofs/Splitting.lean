import ContentQuery.Proofs.Layout

/-!
# ContentQuery.Proofs.Splitting

What becomes of a line that is cut into parts: the parts and the separators between them make up the
line, and if the parts are no query, then one of the conditions is to blame.
-/

namespace ContentQuery.Expression

/-! ## Reading parts -/

variable {problem : SyntaxProblem}

theorem IsConditionText.trim_eq_self {s : Text} (h : IsConditionText s) : s.trim = s := by
  obtain ⟨first, hfirst, hfirstInk⟩ := h.begins
  obtain ⟨last, hlast, hlastInk⟩ := h.ends
  apply Text.trim_eq_self
  · intro c hc
    rwa [Option.mem_unique hc hfirst]
  · intro c hc
    rwa [Option.mem_unique hc hlast]

/-- A condition from a line is read as one, and is to blame if that fails. -/
theorem IsConditionText.parseCondition {s : Text} (h : IsConditionText s) (index : Nat) :
    Query.parseCondition index s = (Condition.parse s).mapError (.badCondition index) := by
  have hne : s ≠ [] := by
    rintro rfl
    obtain ⟨c, hc, -⟩ := h.begins
    contradiction
  have hword : Connective.ofWord? s = none := Connective.ofWord?_eq_none_iff.mpr h.not_connective
  unfold Query.parseCondition
  simp only [h.trim_eq_self, hne, hword]
  rfl

theorem parseConnective_word (index : Nat) (connective : Connective) :
    Query.parseConnective index connective.word = .ok connective := by
  have htrim : connective.word.trim = connective.word := by cases connective <;> rfl
  have hne : connective.word ≠ [] := by cases connective <;> exact List.cons_ne_nil _ _
  unfold Query.parseConnective
  simp only [htrim, hne, Connective.ofWord?_word]
  rfl

/-- The parts of links are read as far as their conditions are. -/
theorem parseRest_eq_error (links : List Link) {index : Nat}
    (h : Query.parseRest index (links.flatMap Link.parts) = .error problem) :
    ∃ k condition cause, (links.flatMap Link.parts)[2 * k + 1]? = some condition ∧
      Condition.parse condition = .error cause ∧
      problem = .badCondition (index + (2 * k + 1)) cause := by
  induction links generalizing index with
  | nil => contradiction
  | cons link links ih =>
      rw [List.flatMap_cons, Link.parts, List.cons_append, List.cons_append, List.nil_append,
        Query.parseRest, parseConnective_word, link.isConditionText.parseCondition] at h
      rcases bind_eq_error_iff.mp h with h | ⟨_, -, h⟩
      · contradiction
      · rcases bind_eq_error_iff.mp h with h | ⟨_, -, h⟩
        · cases hread : Condition.parse link.condition with
          | ok condition => rw [hread] at h; contradiction
          | error cause =>
              rw [hread] at h
              exact ⟨0, link.condition, cause, rfl, hread, (Except.error.inj h).symm⟩
        · rcases bind_eq_error_iff.mp h with h | ⟨_, -, h⟩
          · obtain ⟨k, condition, cause, hplace, hread, rfl⟩ := ih h
            refine ⟨k + 1, condition, cause, hplace, hread, ?_⟩
            congr 1
            omega
          · contradiction

/-- If the parts of a line are no query, one of the conditions is to blame. -/
theorem Layout.parse_eq_error (layout : Layout) (h : Query.parse layout.parts = .error problem) :
    ∃ k condition cause, layout.parts[2 * k]? = some condition ∧
      Condition.parse condition = .error cause ∧ problem = .badCondition (2 * k) cause := by
  rw [Layout.parts, Query.parse, layout.isConditionText.parseCondition] at h
  rcases bind_eq_error_iff.mp h with h | ⟨_, -, h⟩
  · cases hread : Condition.parse layout.condition with
    | ok condition => rw [hread] at h; contradiction
    | error cause =>
        rw [hread] at h
        exact ⟨0, layout.condition, cause, rfl, hread, (Except.error.inj h).symm⟩
  · rcases bind_eq_error_iff.mp h with h | ⟨_, -, h⟩
    · obtain ⟨k, condition, cause, hplace, hread, rfl⟩ := parseRest_eq_error layout.links h
      refine ⟨k + 1, condition, cause, hplace, hread, ?_⟩
      congr 1
      omega
    · contradiction

/-! ## Splitting lines -/

/-- A line that is not blank and is cut into parts is taken apart by a layout with these parts: the
line is made up of the conditions as they are, words for the connectives, and separators. And if
the parts are no query, this is due to a condition, which stands at an even place, and to nothing
else. -/
theorem exists_layout_of_split {line : Text} {parts : List Text}
    (hline : line.all CodePoint.isBlank = false) (hsplit : split line = .ok parts) :
    (∃ layout : Layout, layout.text = line ∧ layout.parts = parts) ∧
    ∀ problem, Query.parse parts = .error problem →
      ∃ k condition cause, parts[2 * k]? = some condition ∧
        Condition.parse condition = .error cause ∧ problem = .badCondition (2 * k) cause := by
  obtain ⟨run, rest, hrun, hrest, hmade⟩ := (split_eq_ok_iff hline).mp hsplit
  obtain ⟨layout, htext, hparts, -⟩ := exists_layout_of_makeUp hrun hrest hmade
  refine ⟨⟨layout, htext, hparts⟩, fun problem hproblem => ?_⟩
  rw [← hparts] at hproblem ⊢
  exact layout.parse_eq_error hproblem

/-- A line with a keyword glued to a string before it, one in a string, one glued to a string after
it, and one in capitals after a line feed. The condition at the place 2 is to blame. -/
theorem exists_layout_of_split_glued :
    let line : Text := " a equals \"or\"and or\"b\"\n OR c contains 1\t"
    let parts : List Text := ["a equals \"or\"", "and", "or\"b\"", "or", "c contains 1"]
    line.all CodePoint.isBlank = false ∧ split line = .ok parts ∧
    (∃ layout : Layout, layout.text = line ∧ layout.parts = parts) ∧
    ∃ cause, Query.parse parts = .error (.badCondition 2 cause) := by
  intro line parts
  have hline : line.all CodePoint.isBlank = false := rfl
  have hsplit : split line = .ok parts := by
    set_option maxRecDepth 100000 in decide +kernel
  exact ⟨hline, hsplit, (exists_layout_of_split hline hsplit).1, .noValue "or\"b\"", rfl⟩

end ContentQuery.Expression

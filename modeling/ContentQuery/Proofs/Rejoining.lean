import ContentQuery.Proofs.Layout

/-!
# ContentQuery.Proofs.Rejoining

The parts of a line, joined again with single spaces. The line that they make is cut into the same
parts: what separates conditions and connectives has changed, the letter case of connectives, too,
but not where the lexemes of a condition end and that none of them is a connective.
-/

namespace ContentQuery.Expression

variable {line after after' rest rest' gap : Text} {later later' : List Lexeme}
  {lexeme : Lexeme} {parts : List Text}

/-! ## Conditions in another place -/

/-- A lexeme that is no connective, and not because of a quote after it, is none wherever it
ends. -/
theorem Lexeme.EndsBefore.of_plain (h : lexeme.EndsBefore after) (hplain : lexeme.connective = none)
    (hquote : after.head? ≠ some quote) (hafter' : EndsWord after') : lexeme.EndsBefore after' := by
  have hnone : Connective.ofWord? lexeme.body = none :=
    Connective.ofWord?_eq_none_iff.mpr (h.lower_ne_word hplain hquote)
  cases h with
  | quoted _ hgap hinner => exact .quoted after' hgap hinner
  | @word gap word _ hgap hne hword _ =>
      have hread : connective? word after = none := hplain
      rw [hread]
      exact endsBefore_word hgap hne hword hafter' hnone

/-- The lexemes of a condition are lexemes before whatever ends a word, if no quote followed
them. -/
theorem isRun_of_plain {lexemes : List Lexeme}
    (hplain : ∀ lexeme ∈ lexemes, lexeme.connective = none)
    (h : IsRun line (lexemes ++ later) rest) (hafter : IsRun after later rest)
    (hquote : after.head? ≠ some quote) (hends : EndsWord after')
    (hafter' : IsRun after' later' rest') :
    IsRun (lexemes.flatMap Lexeme.span ++ after') (lexemes ++ later') rest' := by
  induction lexemes generalizing line with
  | nil => exact hafter'
  | cons lexeme lexemes ih =>
      obtain ⟨hlexeme, hplain⟩ := List.forall_mem_cons.mp hplain
      rw [List.cons_append] at h
      cases h with
      | @step _ line' _ _ hlast hothers =>
          have hline' : line' = lexemes.flatMap Lexeme.span ++ after := by
            rw [hothers.line_eq, hafter.line_eq, List.flatMap_append, List.append_assoc]
          have hlast' : lexeme.EndsBefore (lexemes.flatMap Lexeme.span ++ after') := by
            cases lexemes with
            | nil => exact hlast.of_plain hlexeme (hline' ▸ hquote) hends
            | cons other others =>
                obtain ⟨_, hother⟩ := hothers.exists_endsBefore List.mem_cons_self
                obtain ⟨c, body, hbody, -⟩ := hother.exists_body_eq_cons
                have hne : (other :: others).flatMap Lexeme.span ≠ [] := by
                  simp [Lexeme.span, hbody]
                apply hlast.of_head?
                rw [hline', List.head?_append_of_ne_nil _ hne, List.head?_append_of_ne_nil _ hne]
          rw [List.flatMap_cons, List.append_assoc]
          exact .step hlast' (ih hplain hothers)

/-- The lexemes of a condition after other separators. -/
def Group.withGap (group : Group) (gap : Text) : Group :=
  { group with first := { group.first with gap } }

/-- A condition consists of the same lexemes between other separators. -/
theorem isRun_withGap {group : Group} (h : IsRun line (group.lexemes ++ later) rest)
    (hafter : IsRun after later rest) (hquote : after.head? ≠ some quote) (hgap : IsGap gap)
    (hends : EndsWord after') (hafter' : IsRun after' later' rest') :
    IsRun (gap ++ (group.text ++ after')) ((group.withGap gap).lexemes ++ later') rest' := by
  have hline : gap ++ (group.text ++ after') =
      (group.withGap gap).lexemes.flatMap Lexeme.span ++ after' := by
    rw [Group.flatMap_span_lexemes, List.append_assoc]
    rfl
  have hfirst : ∃ line', IsRun line' ((group.withGap gap).lexemes ++ later) rest := by
    cases h with
    | step hlexeme hothers => exact ⟨_, .step (hlexeme.withGap hgap) hothers⟩
  obtain ⟨line', hfirst⟩ := hfirst
  rw [hline]
  exact isRun_of_plain (fun lexeme => Group.connective_eq_none) hfirst hafter hquote hends hafter'

/-! ## Parts joined again -/

theorem joinWith_cons {part : Text} (hne : parts ≠ []) :
    Text.joinWith [Condition.space] (part :: parts) =
      part ++ Condition.space :: Text.joinWith [Condition.space] parts := by
  obtain ⟨next, parts, rfl⟩ := List.exists_cons_of_ne_nil hne
  simp [Text.joinWith]

/-- The lexemes that make up parts, between single spaces, make up the same parts. -/
theorem exists_run_joinWith {run : List Lexeme} (hrun : IsRun line run rest) (hrest : IsGap rest)
    (hmade : MakeUp run parts) (hgap : IsGap gap) :
    ∃ run', IsRun (gap ++ Text.joinWith [Condition.space] parts) run' [] ∧ MakeUp run' parts := by
  induction hmade generalizing line gap with
  | last group =>
      have hquote := hrest.head?_ne_quote
      rw [← List.append_nil group.lexemes] at hrun
      obtain ⟨after, rfl, hafter⟩ := hrun.of_append
      obtain rfl : after = rest := hafter.line_eq
      have hjoined := isRun_withGap hrun hafter hquote hgap endsWord_nil (.stop rfl)
      rw [List.append_nil, List.append_nil] at hjoined
      exact ⟨_, hjoined, .last (group.withGap gap)⟩
  | @link group lexeme connective later parts hlexeme hlater ih =>
      obtain ⟨after, rfl, hafter⟩ := hrun.of_append
      have hquote := head?_ne_quote hafter hlexeme
      have hothers : ∃ line', IsRun line' later rest := by
        cases hafter with
        | step _ hothers => exact ⟨_, hothers⟩
      obtain ⟨line', hothers⟩ := hothers
      obtain ⟨run', hrun', hmade'⟩ := ih hothers isGap_space
      have hword : Lexeme.EndsBefore ⟨[Condition.space], connective.word, some connective⟩
          ([Condition.space] ++ Text.joinWith [Condition.space] parts) := by
        apply endsBefore_connective isGap_space
        · exact Connective.ofWord?_eq_some_iff.mp (Connective.ofWord?_word connective)
        · exact endsWord_space _
        · exact fun hhead => absurd (Option.some.inj hhead) (by decide)
      let link : Lexeme := ⟨[Condition.space], connective.word, some connective⟩
      have hlink : IsRun (Condition.space ::
          (connective.word ++ Condition.space :: Text.joinWith [Condition.space] parts))
          (link :: run') [] := .step hword hrun'
      refine ⟨(group.withGap gap).lexemes ++ link :: run', ?_, .link (group.withGap gap) rfl hmade'⟩
      rw [joinWith_cons (List.cons_ne_nil _ _), joinWith_cons hlater.parts_ne_nil]
      exact isRun_withGap hrun hafter hquote hgap (endsWord_space _) hlink

/-- The parts that a line is cut into, joined with single spaces, make a line that is cut into the
same parts. -/
theorem split_joinWith_space (hsplit : split line = .ok parts) :
    split (Text.joinWith [' '] parts) = .ok parts := by
  by_cases hblank : line.all CodePoint.isBlank = true
  · rw [split, if_pos hblank] at hsplit
    obtain rfl := Except.ok.inj hsplit
    rfl
  · rw [Bool.not_eq_true] at hblank
    obtain ⟨run, rest, hrun, hrest, hmade⟩ := (split_eq_ok_iff hblank).mp hsplit
    obtain ⟨run', hrun', hmade'⟩ := exists_run_joinWith hrun hrest hmade isGap_nil
    exact (split_eq_ok_iff (hrun'.not_all_isBlank hmade'.ne_nil)).mpr
      ⟨run', [], hrun', isGap_nil, hmade'⟩

/-- A line with a keyword glued to a string before it, and one in capitals after a line feed. -/
theorem split_joinWith_space_of_glued :
    let line : Text := " a equals \"or\"and or\"b\"\n OR c\ncontains 1\t"
    let parts : List Text := ["a equals \"or\"", "and", "or\"b\"", "or", "c\ncontains 1"]
    split line = .ok parts ∧
      split "a equals \"or\" and or\"b\" or c\ncontains 1" = .ok parts := by
  intro line parts
  have hsplit : split line = .ok parts := by
    set_option maxRecDepth 100000 in decide +kernel
  exact ⟨hsplit, split_joinWith_space hsplit⟩

end ContentQuery.Expression
